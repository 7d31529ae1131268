import MarketingFlow.Proofs.Outcome
import MarketingFlow.Service.Client

/-!
# Accidents are not taken for passing failures

Whether a failure is tried again is decided by its texts. The kinds of passing failures have a
hyphen after a letter that no message about an unreadable answer has in front of a hyphen: there,
hyphens stand in the names of encodings and between places only.
-/

namespace MarketingFlow

namespace Text

/-- May stand in front of a hyphen: a digit, or the end of an encoding's name. -/
def isCodeEnd (c : Char) : Bool :=
  c.isDigit || c == 'f' || c == 'F'

/-- Every hyphen of a text after `prev` stands in a code. -/
def hyphensInCodes (prev : Char) : List Char → Bool
  | [] => true
  | c :: rest => (c != '-' || isCodeEnd prev) && hyphensInCodes c rest

theorem hyphensInCodes_append (prev : Char) (a b : List Char) :
    hyphensInCodes prev (a ++ b) =
      (hyphensInCodes prev a && hyphensInCodes (a.getLastD prev) b) := by
  induction a generalizing prev with
  | nil => rfl
  | cons c a ih =>
    rw [List.cons_append, hyphensInCodes, ih, hyphensInCodes, Bool.and_assoc, List.getLastD_cons]

theorem hyphensInCodes_of_notMem {prev : Char} {a : List Char} (h : '-' ∉ a) :
    hyphensInCodes prev a = true := by
  induction a generalizing prev with
  | nil => rfl
  | cons c a ih =>
    simp only [List.mem_cons, not_or] at h
    rw [hyphensInCodes, ih h.2]
    simp [Ne.symm h.1]

theorem isDigit_of_mem_toString {n : Nat} {c : Char} (h : c ∈ (toString n).toList) :
    c.isDigit = true := by
  rw [Nat.toString_eq_repr, Nat.toList_repr] at h
  exact Nat.isDigit_of_mem_toDigits (by decide) (by decide) h

theorem hyphen_notMem_toString (n : Nat) : '-' ∉ (toString n).toList := by
  intro h
  exact absurd (isDigit_of_mem_toString h) (by decide)

theorem hyphen_notMem_ofList {cs : List Char} (h : '-' ∉ cs) : '-' ∉ (String.ofList cs).toList := by
  rwa [String.toList_ofList]

theorem hyphen_notMem_append {a b : String} (ha : '-' ∉ a.toList) (hb : '-' ∉ b.toList) :
    '-' ∉ (a ++ b).toList := by
  rw [String.toList_append, List.mem_append]
  exact not_or.mpr ⟨ha, hb⟩

theorem isCodeEnd_toString (before : List Char) (n : Nat) (prev : Char) :
    isCodeEnd ((before ++ (toString n).toList).getLastD prev) = true := by
  have hne : (toString n).toList ≠ [] := by
    rw [Nat.toString_eq_repr, Nat.toList_repr]
    exact Nat.toDigits_ne_nil
  rw [List.getLastD_eq_getLast?, List.getLast?_append, List.getLast?_eq_some_getLast hne,
    Option.some_or, Option.getD_some, isCodeEnd,
    isDigit_of_mem_toString (List.getLast_mem hne)]
  rfl

/-- A text with hyphens in codes only names no passing failure. -/
theorem contains_transient {text pattern : String} (h : hyphensInCodes ' ' text.toList = true)
    (hp : pattern ∈ RetryOptions.transient) : contains text pattern = false := by
  have hpattern : ∀ prev, hyphensInCodes prev pattern.toList = false := by
    simp only [RetryOptions.transient, List.mem_cons, List.not_mem_nil, or_false] at hp
    rcases hp with rfl | rfl | rfl <;> exact fun _ => rfl
  rw [Bool.eq_false_iff]
  intro hc
  obtain ⟨before, after, heq⟩ := occursIn_iff.mp hc
  rw [heq, hyphensInCodes_append, hyphensInCodes_append, hpattern, Bool.and_false,
    Bool.false_and] at h
  cases h

end Text

/-! ## Bytes and documents that cannot be read -/

namespace Text

/-- The flaw of one of the encodings that an answer may have. -/
structure ByteFlaw.OfAnswer (f : ByteFlaw) : Prop where
  codec : f.codec ∈ ["utf-8", "utf-16-le", "utf-16-be", "utf-32-le", "utf-32-be"]
  reason : '-' ∉ f.reason.toList

theorem hyphen_notMem_hexByte (b : Nat) : '-' ∉ (hexByte b).toList := by
  have hdigit : ∀ n, '-' ≠ Nat.digitChar n := by
    intro n
    grind [Nat.digitChar]
  rw [hexByte, String.toList_ofList]
  simp only [List.mem_cons, List.not_mem_nil, or_false, not_or]
  exact ⟨by decide, by decide, hdigit _, hdigit _⟩

/-- The place of a flaw: a byte or a range. -/
theorem hyphensInCodes_place (f : ByteFlaw) (prev : Char) :
    hyphensInCodes prev (if f.count = 1 then
        "byte " ++ hexByte f.byte ++ " in position " ++ toString f.first
      else "bytes in position " ++ toString f.first ++ "-" ++
        toString (f.first + f.count - 1)).toList = true := by
  split
  · refine hyphensInCodes_of_notMem ?_
    simp only [String.toList_append, List.mem_append, hyphen_notMem_toString,
      hyphen_notMem_hexByte, or_false, not_or]
    decide
  · simp only [String.toList_append, hyphensInCodes_append, Bool.and_eq_true]
    refine ⟨⟨⟨?_, ?_⟩, ?_⟩, ?_⟩
    · exact hyphensInCodes_of_notMem (by decide)
    · exact hyphensInCodes_of_notMem (hyphen_notMem_toString _)
    · rw [show "-".toList = ['-'] from rfl]
      simp only [hyphensInCodes, bne_self_eq_false, Bool.false_or, Bool.and_true]
      exact isCodeEnd_toString _ _ _
    · exact hyphensInCodes_of_notMem (hyphen_notMem_toString _)

theorem ByteFlaw.OfAnswer.hyphensInCodes_message {f : ByteFlaw} (h : f.OfAnswer) :
    hyphensInCodes ' ' f.message.toList = true := by
  have hcodec : hyphensInCodes ' ' ("'" ++ f.codec).toList = true := by
    have := h.codec
    simp only [List.mem_cons, List.not_mem_nil, or_false] at this
    rcases this with h | h | h | h | h <;> rw [h] <;> decide
  simp only [ByteFlaw.message, String.toList_append, hyphensInCodes_append,
    Bool.and_eq_true] at hcodec ⊢
  refine ⟨⟨⟨⟨hcodec, ?_⟩, ?_⟩, ?_⟩, ?_⟩
  · exact hyphensInCodes_of_notMem (by decide)
  · exact hyphensInCodes_place f _
  · exact hyphensInCodes_of_notMem (by decide)
  · exact hyphensInCodes_of_notMem h.reason

theorem Utf8.ofAnswer_decodeAt {position : Nat} {bs : List Nat} {f : ByteFlaw}
    (h : decodeAt position bs = .error f) : f.OfAnswer := by
  have hreason : ∀ r : Reason, '-' ∉ r.text.toList := by
    rintro (_ | _ | _) <;> decide
  fun_induction decodeAt position bs with
  | case1 => cases h
  | case2 =>
    cases h
    exact ⟨by simp, hreason _⟩
  | case3 _ _ _ _ _ _ _ _ heq ih =>
    cases h
    exact ih heq
  | case4 => cases h

theorem Wide.ofAnswer_pairs {o : ByteOrder} {position : Nat} {bs : List Nat} {f : ByteFlaw}
    (h : pairs o position bs = .error f) : f.OfAnswer := by
  fun_induction pairs o position bs with
  | case1 => cases h
  | case2 =>
    cases h
    refine ⟨?_, (by decide : '-' ∉ "truncated data".toList)⟩
    cases o <;> simp [ByteOrder.suffix]
  | case3 _ _ _ _ ih =>
    rcases Outcome.bind_eq_error_iff.mp h with h | ⟨_, -, h⟩
    · exact ih h
    · cases h

theorem Wide.ofAnswer_decode32At {o : ByteOrder} {position : Nat} {bs : List Nat} {f : ByteFlaw}
    (h : decode32At o position bs = .error f) : f.OfAnswer := by
  have hcodec : "utf-32" ++ o.suffix ∈
      ["utf-8", "utf-16-le", "utf-16-be", "utf-32-le", "utf-32-be"] := by
    cases o <;> simp [ByteOrder.suffix]
  fun_induction decode32At o position bs with
  | case1 => cases h
  | case2 =>
    cases h
    exact ⟨hcodec, (by decide : '-' ∉ "code point not in range(0x110000)".toList)⟩
  | case3 _ _ _ _ _ _ _ _ ih =>
    rcases Outcome.bind_eq_error_iff.mp h with h | ⟨_, -, h⟩
    · exact ih h
    · cases h
  | case4 =>
    cases h
    exact ⟨hcodec, (by decide : '-' ∉ "truncated data".toList)⟩

end Text

namespace Json

theorem ofAnswer_charsOf {bs : List Nat} {f : Text.ByteFlaw} (h : charsOf bs = .error f) :
    f.OfAnswer := by
  have hutf8 : ∀ position bs, Text.Utf8.textAt position bs = .error f → f.OfAnswer := by
    intro position bs h
    rw [Text.Utf8.textAt] at h
    cases hd : Text.Utf8.decodeAt position bs with
    | ok cs => simp [hd, Except.map] at h
    | error e =>
      rw [hd] at h
      cases h
      exact Text.Utf8.ofAnswer_decodeAt hd
  rw [charsOf] at h
  split at h
  · exact hutf8 0 _ h
  · exact hutf8 0 _ h
  · rcases Outcome.bind_eq_error_iff.mp h with h | ⟨_, -, h⟩
    · exact Text.Wide.ofAnswer_pairs h
    · cases h
  · exact Text.Wide.ofAnswer_decode32At h

/-- What is too deep in a document is an array or an object. -/
def ReadError.IsPlain : ReadError → Prop
  | tooDeep kind => kind = "array" ∨ kind = "object"
  | _ => True

theorem isPlain_scanString {start position : Nat} {cs done : List Char} {e : ReadError}
    (h : scanString start position cs done = .error e) : e.IsPlain := by
  fun_induction scanString start position cs done with
  | _ => grind [ReadError.IsPlain]

theorem isPlain_scanNumber {c : Cursor} {e : ReadError} (h : scanNumber c = .error e) :
    e.IsPlain := by
  grind [scanNumber, Cursor.fail, ReadError.IsPlain]

theorem isPlain_fail {α : Type} {c : Cursor} {problem : SyntaxProblem} {e : ReadError}
    (h : (c.fail problem : Except ReadError α) = .error e) : e.IsPlain := by
  cases h
  trivial

/-- Of values, items and members alike, by the fuel. -/
theorem isPlain_scan (fuel : Nat) :
    (∀ depth c e, scanValue fuel depth c = .error e → e.IsPlain) ∧
      (∀ depth c done e, scanItems fuel depth c done = .error e → e.IsPlain) ∧
      ∀ depth c done e, scanMembers fuel depth c done = .error e → e.IsPlain := by
  induction fuel with
  | zero =>
    refine ⟨?_, ?_, ?_⟩
    · intro depth c e h
      rw [scanValue] at h
      exact isPlain_fail h
    · intro depth c done e h
      rw [scanItems] at h
      exact isPlain_fail h
    · intro depth c done e h
      rw [scanMembers] at h
      exact isPlain_fail h
  | succ fuel ih =>
    obtain ⟨hvalue, hitems, hmembers⟩ := ih
    refine ⟨?_, ?_, ?_⟩
    · intro depth c e h
      rw [scanValue] at h
      split at h
      · rcases Outcome.bind_eq_error_iff.mp h with h | ⟨_, -, h⟩
        · exact isPlain_scanString h
        · cases h
      · split at h
        · cases h
          exact .inl rfl
        · grind
      · split at h
        · cases h
          exact .inr rfl
        · grind
      · grind [isPlain_scanNumber]
    · intro depth c done e h
      rw [scanItems] at h
      rcases Outcome.bind_eq_error_iff.mp h with h | ⟨x, -, h⟩
      · exact hvalue _ _ _ h
      · dsimp only at h
        split at h
        · cases h
        · exact hitems _ _ _ _ h
        · exact isPlain_fail h
    · intro depth c done e h
      rw [scanMembers] at h
      split at h
      · rcases Outcome.bind_eq_error_iff.mp h with h | ⟨_, -, h⟩
        · exact isPlain_scanString h
        · dsimp only at h
          split at h
          · exact isPlain_fail h
          · rcases Outcome.bind_eq_error_iff.mp h with h | ⟨_, -, h⟩
            · exact hvalue _ _ _ h
            · split at h
              · cases h
              · exact hmembers _ _ _ _ h
              · exact isPlain_fail h
      · exact isPlain_fail h

theorem isPlain_readUnmarked {depth : Nat} {cs : List Char} {e : ReadError}
    (h : readUnmarked depth cs = .error e) : e.IsPlain := by
  rcases Outcome.bind_eq_error_iff.mp h with h | ⟨_, -, h⟩
  · exact (isPlain_scan _).1 _ _ _ h
  · dsimp only at h
    split at h
    · cases h
    · exact isPlain_fail h

theorem hyphen_notMem_placeText (text : String) (position : Nat) :
    '-' ∉ (placeText text position).toList := by
  refine Text.hyphen_notMem_append (Text.hyphen_notMem_append (Text.hyphen_notMem_append
    (Text.hyphen_notMem_append (Text.hyphen_notMem_append (Text.hyphen_notMem_append ?_ ?_) ?_)
      ?_) ?_) ?_) ?_
  · decide
  · exact Text.hyphen_notMem_toString _
  · decide
  · exact Text.hyphen_notMem_toString _
  · decide
  · exact Text.hyphen_notMem_toString _
  · decide

theorem hyphensInCodes_syntaxProblem (problem : SyntaxProblem) (text : String) (position : Nat) :
    Text.hyphensInCodes ' '
      ((ReadError.syntaxProblem problem position).cause text).message.toList = true := by
  have hproblem : Text.hyphensInCodes ' ' problem.message.toList = true := by
    cases problem <;> decide
  change Text.hyphensInCodes ' ' (problem.message ++ ": " ++ placeText text position).toList = true
  rw [String.toList_append, String.toList_append, Text.hyphensInCodes_append,
    Text.hyphensInCodes_append, hproblem,
    Text.hyphensInCodes_of_notMem (hyphen_notMem_placeText text position),
    Text.hyphensInCodes_of_notMem (by decide)]
  rfl

end Json

namespace Failure

/-- Neither foreseen nor taken for a failure that may pass by itself. -/
def Accident (f : Failure) : Prop :=
  f.foreseen = false ∧ f.isRetryable RetryOptions.transient = false

theorem hyphen_notMem_className (c : Cause) : '-' ∉ c.className.toList := by
  rw [Cause.className.eq_def]
  split
  case h_5 kind _ _ _ => cases kind <;> decide
  case h_11 flaw => rw [Domain.Flaw.className.eq_def]; split <;> decide
  case h_14 kind _ => cases kind <;> decide
  case h_16 m => rw [Misuse.className.eq_def]; split <;> decide
  all_goals decide

theorem accident_of_hyphensInCodes {c : Cause} (hc : c.foreseen = false)
    (h : Text.hyphensInCodes ' ' c.message.toList = true) : Accident { cause := c } := by
  refine ⟨hc, ?_⟩
  have hkind : ({ cause := c } : Failure).kindText = "" := by
    cases c <;> first | rfl | cases hc
  rw [isRetryable, Bool.or_eq_false_iff]
  refine ⟨rfl, ?_⟩
  rw [List.any_eq_false]
  intro pattern hp
  have hclass : Text.hyphensInCodes ' ' c.className.toList = true :=
    Text.hyphensInCodes_of_notMem (hyphen_notMem_className c)
  have hm : ({ cause := c } : Failure).message = c.message := rfl
  have hn : ({ cause := c } : Failure).className = c.className := rfl
  rw [hkind, hm, hn, Text.contains_transient h hp, Text.contains_transient hclass hp]
  exact Bool.false_ne_true

/-- In particular, a message without any hyphen. -/
theorem accident_of_notMem {c : Cause} (hc : c.foreseen = false) (h : '-' ∉ c.message.toList) :
    Accident { cause := c } :=
  accident_of_hyphensInCodes hc (Text.hyphensInCodes_of_notMem h)

theorem hyphen_notMem_tooManyDigits (digits : Nat) :
    '-' ∉ (Cause.tooManyDigits digits).message.toList := by
  refine Text.hyphen_notMem_append (Text.hyphen_notMem_append ?_ ?_) ?_
  · exact Text.hyphen_notMem_ofList (by decide)
  · exact Text.hyphen_notMem_toString digits
  · exact Text.hyphen_notMem_ofList (by decide)

/-- An answer that cannot be read is an accident. -/
theorem accident_of_readBytes {bytes : ByteArray} {e : Failure}
    (h : Json.readBytes bytes = .error e) : e.Accident := by
  rw [Json.readBytes] at h
  split at h
  · rename_i flaw hflaw
    cases h
    exact accident_of_hyphensInCodes rfl (Json.ofAnswer_charsOf hflaw).hyphensInCodes_message
  · split at h
    · cases h
    · rename_i cs _ e he
      cases h
      have hplain := Json.isPlain_readUnmarked he
      cases e with
      | syntaxProblem problem position =>
        exact accident_of_hyphensInCodes rfl (Json.hyphensInCodes_syntaxProblem problem _ _)
      | tooManyDigits digits => exact accident_of_notMem rfl (hyphen_notMem_tooManyDigits digits)
      | tooDeep kind =>
        refine accident_of_notMem rfl ?_
        rcases hplain with rfl | rfl
        · exact (by decide : '-' ∉ (Cause.tooDeep "array").message.toList)
        · exact (by decide : '-' ∉ (Cause.tooDeep "object").message.toList)

theorem hyphen_notMem_typeName (v : Json) : '-' ∉ v.typeName.toList := by
  rw [Json.typeName.eq_def]
  split <;> decide

/-- Reading a member of anything but an object is an accident. -/
theorem accident_of_get {v : Json} {key : String} {e : Failure} (h : v.get key = .error e) :
    e.Accident := by
  rcases Outcome.bind_eq_error_iff.mp h with h | ⟨_, -, h⟩
  · rw [Json.members.eq_def] at h
    split at h
    · cases h
    · cases h
      refine accident_of_notMem rfl (Text.hyphen_notMem_append (Text.hyphen_notMem_append
        (Text.hyphen_notMem_append (Text.hyphen_notMem_append ?_ ?_) ?_) ?_) ?_)
      · decide
      · exact hyphen_notMem_typeName v
      · decide
      · decide
      · decide
  · cases h

theorem accident_of_get_orEmpty {v : Json} {key : String} {e : Failure}
    (h : (do return (← v.get key).orEmpty : Except Failure Json) = .error e) : e.Accident := by
  rcases Outcome.bind_eq_error_iff.mp h with h | ⟨_, -, h⟩
  · exact accident_of_get h
  · cases h

theorem accident_of_get_get {v : Json} {key key' : String} {e : Failure}
    (h : (do (← v.get key).orEmpty.get key' : Except Failure Json) = .error e) : e.Accident := by
  rcases Outcome.bind_eq_error_iff.mp h with h | ⟨_, -, h⟩
  · exact accident_of_get h
  · exact accident_of_get h

theorem accident_of_size {v : Json} {e : Failure} (h : v.size = .error e) : e.Accident := by
  rw [Json.size.eq_def] at h
  split at h
  · cases h
  · cases h
  · cases h
  · cases h
    refine accident_of_notMem rfl (Text.hyphen_notMem_append (Text.hyphen_notMem_append ?_ ?_) ?_)
    · decide
    · exact hyphen_notMem_typeName v
    · decide

theorem foreseen_of_remoteKind {f : Failure} {kind : RemoteKind} (h : f.remoteKind? = some kind) :
    f.foreseen = true := by
  rw [remoteKind?] at h
  split at h
  · rename_i hcause
    rw [foreseen, hcause]
    rfl
  · cases h

end Failure

end MarketingFlow
