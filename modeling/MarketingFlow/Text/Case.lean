import MarketingFlow.Text.CaseTables

/-!
# Letter case

Lower case and capitalisation of whole texts. A capital sigma that ends a word becomes the final
small sigma: a cased character comes before it and none after it, where characters that case
detection ignores are looked through on both sides.
-/

namespace MarketingFlow.Text

def haveCode (table : Array (Nat × Nat)) (n : Nat) : Bool :=
  table.any fun (lo, hi) => lo ≤ n && n ≤ hi

def inRanges (table : Array (Nat × Nat)) (c : Char) : Bool :=
  haveCode table c.toNat

def CaseRun.covers (r : CaseRun) (n : Nat) : Bool :=
  r.first ≤ n && n ≤ r.last && (n - r.first) % r.step == 0

/-- The mapped form of one character: a listed sequence, else the shift of its run, else itself. -/
def mapCase (runs : Array CaseRun) (sequences : List (Nat × List Nat)) (c : Char) : List Char :=
  match sequences.lookup c.toNat with
  | some ns => ns.map Char.ofNat
  | none =>
    match runs.find? (·.covers c.toNat) with
    | some r => [Char.ofNat (c.toNat + r.shift).toNat]
    | none => [c]

def lowerChar (c : Char) : List Char :=
  if c.toNat < 0x80 then [c.toLower] else mapCase lowerRuns lowerSequences c

def titleChar (c : Char) : List Char :=
  if c.toNat < 0x80 then [c.toUpper] else mapCase titleRuns titleSequences c

def capitalSigma : Char := Char.ofNat 0x3a3
def smallSigma : Char := Char.ofNat 0x3c3
def finalSigma : Char := Char.ofNat 0x3c2

/-- The first character that case detection does not look through is a cased one. -/
def casedNext (cs : List Char) : Bool :=
  match cs.dropWhile (inRanges caseIgnorableRanges) with
  | [] => false
  | c :: _ => inRanges casedRanges c

/-- Lowers the text `cs` that follows the characters `before`, nearest first. -/
def lowerAfter (before : List Char) : List Char → List Char
  | [] => []
  | c :: rest =>
    let lowered :=
      if c = capitalSigma then
        [if casedNext before && !casedNext rest then finalSigma else smallSigma]
      else lowerChar c
    lowered ++ lowerAfter (c :: before) rest

def lower (s : String) : String :=
  String.ofList (lowerAfter [] s.toList)

def capitalize (s : String) : String :=
  match s.toList with
  | [] => ""
  | c :: rest => String.ofList (titleChar c ++ lowerAfter [c] rest)

end MarketingFlow.Text
