import MarketingFlow.Proofs.Interaction.Tasks
import MarketingFlow.Service.Directory

/-!
# Look-ups as tasks

A look-up that runs by itself is a task on the directory and on the state of its loader. It goes
step by step as the look-up does: parts in sequence are tasks in sequence, and a load under retry is
the loader under retry.
-/

namespace MarketingFlow

variable {σ α β : Type}

theorem Program.translate_bind {I J : Interface}
    (answer : (c : I.Call) → σ → Program J (I.Answer c × σ)) (p : Program I α)
    (f : α → Program I β) (s : σ) : (p.bind f).translate answer s =
      (p.translate answer s).bind fun x => (f x.1).translate answer x.2 := by
  induction p generalizing s with
  | done a => rfl
  | call c next ih =>
    rw [bind, translate, translate, bind_assoc]
    congr 1
    funext x
    exact ih x.1 f x.2
  | loop body start next _ ih =>
    rw [bind, translate, translate, bind]
    congr 1
    funext x
    exact ih x.1 f x.2

namespace Directory

variable (loader : Task σ Json)

theorem alone_pure (r : Except Failure α) : alone loader (ExceptT.mk (pure r)) = .ofExcept r :=
  rfl

theorem alone_bind (l : LookupM α) (f : α → LookupM β) :
    alone loader (l >>= f) = alone loader l >>= fun a => alone loader (f a) := by
  funext s
  change (l.run.bind _).translate (answer loader) s = _
  rw [Program.translate_bind]
  change _ = (_ : Task (Directory × σ) β).start s
  rw [Task.start_bind]
  congr 1
  funext x
  rcases x with ⟨e | a, s⟩ <;> rfl

/-- What is read off the result of a look-up is read after it. -/
theorem run_bind_eq (l : LookupM α) (f : α → Except Failure β) :
    (ExceptT.mk (do return (← l.run).bind f) : LookupM β) =
      l >>= fun a => ExceptT.mk (pure (f a)) := by
  change l.run.bind _ = l.run.bind _
  congr 1
  funext r
  cases r <;> rfl

theorem alone_result (l : LookupM α) :
    alone loader (ExceptT.lift l.run) = (alone loader l).result := by
  funext s
  change (l.run.bind _).translate (answer loader) s = _
  rw [Program.translate_bind]
  rfl

theorem alone_attempt (once : Program Lookup (Except Failure α)) (label : String)
    (o : RetryOptions Number) (n left : Nat) :
    alone loader (ExceptT.mk (attemptFrom once label o n left)) =
      (alone loader (ExceptT.mk once)).attempt label o n left := by
  induction left using Nat.strongRecOn generalizing n with
  | ind left ih =>
    rw [Task.attempt_eq]
    funext s
    change (attemptFrom once label o n left).translate (answer loader) s = (_ : Task _ α).start s
    rw [attemptFrom.eq_def]
    change (once.bind _).translate (answer loader) s = _
    rw [Program.translate_bind, Task.start_bind, Task.start_result, Program.bind_assoc]
    congr 1
    funext x
    rcases x with ⟨f | a, s⟩
    · simp only [Program.bind, Task.andThen, Task.afterAttempt]
      cases f.isRetryable o.retryable
      · rfl
      · cases left with
        | zero => rfl
        | succ left =>
          simp only [Bool.not_true, Bool.false_eq_true, if_false]
          cases o.delayAfter n with
          | error e => rfl
          | ok delay =>
            have hrest := congrFun (ih left (Nat.lt_succ_self left) (n + 1)) s
            exact congrArg (fun rest => Program.call (I := World) (.log _ _) fun _ =>
              .call (.sleep delay) fun _ => rest) hrest
    · simp only [Program.bind, Task.andThen, Task.afterAttempt]
      by_cases h : 1 < n
      · simp only [if_pos h]
        rfl
      · simp only [if_neg h]
        rfl

theorem alone_retry (once : Program Lookup (Except Failure α)) (label : String)
    (o : RetryOptions Number) : alone loader (ExceptT.mk (retry once label o)) =
      (alone loader (ExceptT.mk once)).retry label o :=
  alone_attempt loader once label o 1 _

/-- A load is the loader, which leaves the directory alone. -/
theorem alone_load_once (kind : String) :
    alone loader (load ⟨kind, none⟩) = loader.within Prod.snd fun s x => (s.1, x) := by
  funext s
  change ((loader.start s.2).bind _).bind _ = _
  rw [Program.bind_assoc]
  rfl

/-- Under the options of a profile it is the loader under retry. -/
theorem alone_load (kind : String) (o : RetryOptions Number) :
    alone loader (load ⟨kind, some o⟩) =
      (loader.within Prod.snd fun s x => (s.1, x)).retry ("Load account " ++ kind ++ "s") o := by
  rw [← alone_load_once loader kind]
  exact alone_retry loader _ _ o

end Directory

end MarketingFlow
