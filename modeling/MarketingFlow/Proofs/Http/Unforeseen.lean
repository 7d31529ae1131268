import MarketingFlow.Http.Content
import MarketingFlow.Proofs.Outcome

/-!
# What cannot be sent

An address that cannot be read or written and a document that cannot be sent are accidents: no part
of a build foresees them.
-/

namespace MarketingFlow

open Outcome

/-- If there is a failure, it is none that the build foresees. -/
abbrev Unforeseen {α : Type} (x : Except Failure α) : Prop :=
  Fails (fun e : Failure => e.foreseen = false) x

theorem unforeseen_checkEncoding (e : Text.Encoding) (text : String) :
    Unforeseen (Failure.checkEncoding e text) := by
  rw [Failure.checkEncoding]
  split
  · exact .error rfl
  · exact .ok _

theorem Escape.unforeseen_write (safe : Char → Bool) (cs : List Char) :
    Unforeseen (write safe cs) :=
  (unforeseen_checkEncoding _ _).bind fun _ => .ok _

namespace Host

theorem unforeseen_read (cs : List Char) : Unforeseen (read cs) := by
  unfold read
  dsimp only
  split
  · exact .ok _
  · split
    · split
      · exact .ok _
      · exact .error rfl
    · split
      · split
        · exact .ok _
        · exact .error rfl
      · split
        · exact Escape.unforeseen_write _ _
        · split
          · exact .ok _
          · exact .error rfl

theorem unforeseen_shown (host : List Char) : Unforeseen (shown host) := by
  unfold shown
  split
  · split
    · exact .ok _
    · exact .error rfl
  · exact .ok _

end Host

namespace Url

theorem Written.unforeseen_portOf (scheme cs : List Char) : Unforeseen (portOf scheme cs) := by
  unfold portOf
  generalize (if cs.head? == some ':' then cs.tail else cs) = digits
  dsimp only
  split
  · exact .ok _
  · split
    · exact .error rfl
    · exact .ok _

theorem Written.unforeseen_checkPath (hasScheme hasAuthority : Bool) (path : List Char) :
    Unforeseen (checkPath hasScheme hasAuthority path) := by
  unfold checkPath
  split
  · split
    · exact .ok _
    · exact .error rfl
  · split
    · exact .ok _
    · split
      · exact .error rfl
      · exact .error rfl
      · exact .ok _

theorem Written.unforeseen_toUrl (w : Written) : Unforeseen w.toUrl := by
  unfold toUrl
  refine (Escape.unforeseen_write _ _).bind fun _ => (Host.unforeseen_read _).bind fun _ => ?_
  refine (unforeseen_portOf _ _).bind fun _ => (unforeseen_checkPath _ _ _).bind fun _ => ?_
  refine (Escape.unforeseen_write _ _).bind fun _ => ?_
  refine (Fails.mapM_option (Escape.unforeseen_write _) _).bind fun _ => ?_
  exact (Fails.mapM_option (Escape.unforeseen_write _) _).bind fun _ => .ok _

theorem unforeseen_read (text : String) : Unforeseen (read text) := by
  unfold read
  dsimp only
  split
  · exact .error rfl
  · split
    · exact .error rfl
    · exact Written.unforeseen_toUrl _

theorem unforeseen_withParts (u : Url) (path : List Char) (query : Option (List Char)) :
    Unforeseen (u.withParts path query) := by
  unfold withParts
  dsimp only
  split
  · exact .error rfl
  · exact Written.unforeseen_toUrl _

theorem unforeseen_join (base : Url) (text : String) : Unforeseen (join base text) := by
  unfold join
  refine (unforeseen_read text).bind fun there => ?_
  split
  · exact .ok _
  · exact unforeseen_withParts _ _ _

theorem unforeseen_hostName (u : Url) : Unforeseen u.hostName :=
  (Host.unforeseen_shown _).bind fun _ => .ok _

end Url

theorem Content.unforeseen_toBody_document (v : Json) : Unforeseen (document v).toBody := by
  unfold toBody
  split
  · exact .ok _
  · exact .ok _
  · split
    · exact .error rfl
    · exact (unforeseen_checkEncoding _ _).bind fun _ => .ok _
  · contradiction

end MarketingFlow
