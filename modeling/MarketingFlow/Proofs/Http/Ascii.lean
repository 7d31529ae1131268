import MarketingFlow.Proofs.Http.Body

/-!
# ASCII texts

A document with ASCII texts only can be sent as it is. That a text is ASCII is told from the pieces
it is put together from, so that a long one need not be put together.
-/

namespace MarketingFlow

/-- All characters are ASCII. -/
def Text.IsAscii (cs : List Char) : Prop :=
  (cs.all fun c => c.toNat < 128) = true

instance (cs : List Char) : Decidable (Text.IsAscii cs) :=
  inferInstanceAs (Decidable (_ = true))

namespace Text.IsAscii

variable {cs ds : List Char}

theorem toNat_lt (h : IsAscii cs) {c : Char} (hc : c ∈ cs) : c.toNat < 128 := by
  simpa using List.all_eq_true.mp h c hc

theorem cons {c : Char} (hc : c.toNat < 128) (hd : IsAscii ds) : IsAscii (c :: ds) := by
  rw [IsAscii, List.all_cons, hd, Bool.and_true, decide_eq_true hc]

theorem append (hc : IsAscii cs) (hd : IsAscii ds) : IsAscii (cs ++ ds) := by
  rw [IsAscii, List.all_append, hc, hd, Bool.and_true]

theorem flatMap {α : Type} {xs : List α} {f : α → List Char} (h : ∀ x ∈ xs, IsAscii (f x)) :
    IsAscii (xs.flatMap f) := by
  rw [IsAscii, List.all_flatMap, List.all_eq_true]
  exact h

theorem intercalate {parts : List (List Char)} (hs : IsAscii ds) (h : ∀ p ∈ parts, IsAscii p) :
    IsAscii (ds.intercalate parts) := by
  induction parts with
  | nil => rfl
  | cons p rest ih =>
    obtain ⟨hp, hrest⟩ := List.forall_mem_cons.mp h
    cases rest with
    | nil => simpa [List.intercalate] using hp
    | cons q rest =>
      have hparts : ds.intercalate (p :: q :: rest) = p ++ (ds ++ ds.intercalate (q :: rest)) := by
        simp [List.intercalate]
      rw [hparts]
      exact hp.append (hs.append (ih hrest))

theorem ofList (h : IsAscii cs) : IsAscii (String.ofList cs).toList := by
  rwa [String.toList_ofList]

theorem text_append {s t : String} (hs : IsAscii s.toList) (ht : IsAscii t.toList) :
    IsAscii (s ++ t).toList := by
  rw [String.toList_append]
  exact hs.append ht

theorem codePoints_eq (h : IsAscii cs) : codePoints cs = cs.map Char.toNat := by
  induction cs with
  | nil => rfl
  | cons c rest ih =>
    have hopener : isOpener c.toNat = false := by
      have hc := h.toNat_lt List.mem_cons_self
      rw [Bool.eq_false_iff, ne_eq, isOpener_iff]
      omega
    have hrest : IsAscii rest := by
      rw [IsAscii, List.all_cons, Bool.and_eq_true] at h
      exact h.2
    rw [codePoints_cons hopener, ih hrest, List.map_cons]

theorem all_holds (h : IsAscii cs) : (codePoints cs).all Encoding.utf8.holds = true := by
  rw [h.codePoints_eq, List.all_eq_true]
  intro n hn
  obtain ⟨c, hc, rfl⟩ := List.mem_map.mp hn
  have hwhole : isHalf c.toNat = false := by
    have hlt := h.toNat_lt hc
    rw [Bool.eq_false_iff, ne_eq, isHalf_iff]
    omega
  simp [Encoding.utf8, hwhole]

theorem stringChars {s : String} (h : IsAscii s.toList) (onlyAscii : Bool) :
    IsAscii (Json.stringChars onlyAscii s) := by
  have hescape : ∀ b : Bool, ∀ n < 128, IsAscii (Json.escapeCode b n) := by
    decide
  refine .append (.cons (by decide) (.flatMap ?_)) (by decide)
  rw [h.codePoints_eq]
  intro n hn
  obtain ⟨c, hc, rfl⟩ := List.mem_map.mp hn
  exact hescape onlyAscii _ (h.toNat_lt hc)

end Text.IsAscii

namespace Json

mutual

/-- The value has ASCII texts only, and no numbers. -/
def IsAscii : Json → Prop
  | null => True
  | bool _ => True
  | int _ => False
  | float _ => False
  | str s => Text.IsAscii s.toList
  | arr xs => AreAscii xs
  | obj ms => HaveAscii ms

def AreAscii : List Json → Prop
  | [] => True
  | x :: xs => IsAscii x ∧ AreAscii xs

def HaveAscii : List (String × Json) → Prop
  | [] => True
  | (k, v) :: ms => Text.IsAscii k.toList ∧ IsAscii v ∧ HaveAscii ms

end

mutual

theorem IsAscii.isFinite {v : Json} (h : v.IsAscii) : v.isFinite = true := by
  cases v with
  | arr xs => exact AreAscii.allFinite h
  | obj ms => exact HaveAscii.allFiniteMembers h
  | float x => exact h.elim
  | _ => rfl

theorem AreAscii.allFinite {xs : List Json} (h : AreAscii xs) : allFinite xs = true := by
  cases xs with
  | nil => rfl
  | cons x xs => rw [Json.allFinite, h.1.isFinite, AreAscii.allFinite h.2, Bool.and_true]

theorem HaveAscii.allFiniteMembers {ms : List (String × Json)} (h : HaveAscii ms) :
    allFiniteMembers ms = true := by
  cases ms with
  | nil => rfl
  | cons m ms =>
    rw [Json.allFiniteMembers, h.2.1.isFinite, HaveAscii.allFiniteMembers h.2.2, Bool.and_true]

end

mutual

theorem IsAscii.writtenChars {v : Json} (h : v.IsAscii) : Text.IsAscii (v.writtenChars .sent) := by
  cases v with
  | null => decide
  | bool b => cases b <;> decide
  | int n => exact h.elim
  | float x => exact h.elim
  | str s => exact h.stringChars _
  | arr xs =>
    exact .cons (by decide) (.append (.intercalate (by decide) (AreAscii.itemChars h)) (by decide))
  | obj ms =>
    exact .cons (by decide)
      (.append (.intercalate (by decide) (HaveAscii.memberChars h)) (by decide))

theorem AreAscii.itemChars {xs : List Json} (h : AreAscii xs) :
    ∀ p ∈ itemChars .sent xs, Text.IsAscii p := by
  cases xs with
  | nil => simp [Json.itemChars]
  | cons x xs => exact List.forall_mem_cons.mpr ⟨h.1.writtenChars, AreAscii.itemChars h.2⟩

theorem HaveAscii.memberChars {ms : List (String × Json)} (h : HaveAscii ms) :
    ∀ p ∈ memberChars .sent ms, Text.IsAscii p := by
  cases ms with
  | nil => simp [Json.memberChars]
  | cons m ms =>
    refine List.forall_mem_cons.mpr ⟨?_, HaveAscii.memberChars h.2.2⟩
    exact ((h.1.stringChars _).append (by decide)).append h.2.1.writtenChars

end

end Json

theorem Content.toBody_of_ascii {v : Json} (hv : v ≠ .null) (h : v.IsAscii) :
    (document v).toBody = .ok (.json v) := by
  rw [toBody_of_ne_null hv, h.isFinite, Failure.checkEncoding_of_holds]
  · rfl
  · rw [Json.toList_write]
    exact h.writtenChars.all_holds

end MarketingFlow
