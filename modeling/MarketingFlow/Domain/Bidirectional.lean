import MarketingFlow.Domain.DirectionTable
import MarketingFlow.Domain.Flaw

/-!
# Labels in two directions

A label with a letter that is written from right to left has one direction as a whole, the one of
its first letter. The letters of the other direction are not allowed in it, its end has to show the
direction, and numbers of two kinds do not mix.
-/

namespace MarketingFlow.Domain

def direction? (c : Char) : Option Direction :=
  (directionRuns.find? fun r => r.first ≤ c.toNat && c.toNat ≤ r.last).map (·.direction)

namespace Direction

/-- Only a label with such a character has to have one direction. -/
def isLeftward : Direction → Bool
  | right => true
  | arabic => true
  | arabicNumber => true
  | _ => false

/-- Letters that make a label one from right to left. -/
def isLeftwardLetter (d : Direction) : Bool :=
  d = right || d = arabic

def endsLeftward (d : Direction) : Bool :=
  d.isLeftward || d = number

def endsRightward (d : Direction) : Bool :=
  d = left || d = number

/-- The directions of a label up to the last one that is not a mark's. -/
def last? (ds : List Direction) : Option Direction :=
  ds.reverse.find? (· != mark)

/-- The first direction that is not allowed, with its place. -/
def firstBad? (isBad : Direction → Bool) (ds : List Direction) : Option Nat :=
  (ds.findIdx? isBad).map (· + 1)

/-- The place of the first number of another kind than the first one. -/
def mixedAt? (ds : List Direction) : Option Nat :=
  match ds.find? fun d => d = number || d = arabicNumber with
  | none => none
  | some first =>
    firstBad? (fun d => (d = number || d = arabicNumber) && d != first) ds

def checkLeftward (ds : List Direction) : Except Flaw Unit :=
  match firstBad? (· == left) ds, mixedAt? ds with
  | some place, some mixed =>
    .error (if mixed < place then .mixedNumbers else .rightwardInLeftward place)
  | some place, none => .error (.rightwardInLeftward place)
  | none, some _ => .error .mixedNumbers
  | none, none => if (last? ds).any endsLeftward then .ok () else .error .undirectedEnd

def checkRightward (ds : List Direction) : Except Flaw Unit :=
  match firstBad? isLeftward ds with
  | some place => .error (.leftwardInRightward place)
  | none => if (last? ds).any endsRightward then .ok () else .error .undirectedEnd

def checkLabel (label : List Char) : Except Flaw Unit := do
  let found := label.map direction?
  match found.findIdx? Option.isNone with
  | some i => throw (.unknownDirection (i + 1) (String.ofList label))
  | none =>
    let ds := found.filterMap id
    if ds.any isLeftward then
      match ds.head? with
      | some left => checkRightward ds
      | some d =>
        if d.isLeftwardLetter then checkLeftward ds
        else throw (.undirectedStart (String.ofList label))
      | none => return ()

end Direction

end MarketingFlow.Domain
