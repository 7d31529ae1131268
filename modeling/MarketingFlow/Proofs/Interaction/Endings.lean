import MarketingFlow.Proofs.Interaction.Traces

/-!
# Tasks that end

A task without loops ends whatever it is answered. A program with loops may be known to end from
some moment on.
-/

namespace MarketingFlow

namespace Program

variable {I : Interface} {α β : Type} {p q : Program I α} {f : α → Program I β}
  {t u : List (Event I)}

theorem Ends.bind (hp : p.Ends) (hf : ∀ a, (f a).Ends) : (p.bind f).Ends := by
  induction hp with
  | done a => exact hf a
  | call _ ih => exact .call fun answer => ih answer
  | @loop _ _ body s next _ ih =>
    refine .loop ?_
    rw [← round_bind]
    exact ih

theorem Ends.reaches (hp : p.Ends) (hq : Reaches p t q) : q.Ends := by
  induction hq with
  | here p => exact hp
  | call answer _ ih =>
    cases hp with
    | call h => exact ih (h answer)
  | enter _ ih =>
    cases hp with
    | loop h => exact ih h

/-- A program that ends is done after some calls, whatever the outside is. -/
theorem Ends.exists_done (answer : (c : I.Call) → I.Answer c) (hp : p.Ends) :
    ∃ t a, Reaches p t (.done a) := by
  induction hp with
  | done a => exact ⟨[], a, .here _⟩
  | @call c next _ ih =>
    obtain ⟨t, a, h⟩ := ih (answer c)
    exact ⟨_, a, .call (answer c) h⟩
  | loop _ ih =>
    obtain ⟨t, a, h⟩ := ih
    exact ⟨t, a, .enter h⟩

/-- After the calls and answers of `t` the program ends, whatever else it is answered. -/
def EndsAfter (p : Program I α) (t : List (Event I)) : Prop :=
  ∀ u q, Reaches p (t ++ u) q → q.Ends

theorem Ends.endsAfter (hp : p.Ends) (t : List (Event I)) : p.EndsAfter t :=
  fun _ _ hq => hp.reaches hq

theorem EndsAfter.bind (hp : p.EndsAfter t) (hf : ∀ a, (f a).Ends) : (p.bind f).EndsAfter t := by
  intro u q hq
  rcases hq.of_bind with ⟨p', hp', rfl⟩ | ⟨v, w, a, -, -, hw⟩
  · exact (hp u p' hp').bind hf
  · exact (hf a).reaches hw

/-- What has to come of a program in any case is known to end if what follows it is. -/
theorem EndsAfter.of_bind {a : α} (hp : Reaches p t (.done a)) (hf : (f a).EndsAfter u) :
    (p.bind f).EndsAfter (t ++ u) := by
  generalize hr : Program.done a = r at hp
  induction hp with
  | here p =>
    subst hr
    exact hf
  | call answer _ ih =>
    intro v q hq
    cases hq with
    | call _ hq => exact ih hr v q hq
  | @enter _ _ body s next t _ _ ih =>
    have hround := ih hr
    rw [round_bind] at hround
    intro v q hq
    generalize hw : t ++ u ++ v = w at hq
    cases hq with
    | here =>
      refine .loop (hround v _ ?_)
      rw [hw]
      exact .here _
    | enter hq => exact hround v q (hw ▸ hq)

end Program

namespace Task

variable {σ α β : Type}

/-- The task ends, from whatever state. -/
def Ends (t : Task σ α) : Prop :=
  ∀ s, (t.start s).Ends

@[grind ←] theorem Ends.ofExcept (r : Except Failure α) : (ofExcept r : Task σ α).Ends :=
  fun _ => .done _

@[grind ←] theorem Ends.pure (a : α) : (pure a : Task σ α).Ends :=
  fun _ => .done _

@[grind ←] theorem Ends.throw (e : Failure) : (throw e : Task σ α).Ends :=
  fun _ => .done _

@[grind ←] theorem Ends.ask (c : World.Call) : (ask c : Task σ c.Answer).Ends :=
  fun _ => .call fun _ => .done _

@[grind ←] theorem Ends.log (level : Level) (text : String) : (log level text : Task σ Unit).Ends :=
  .ask _

theorem Ends.logs (level : Level) (texts : List String) :
    (texts.forM (Task.log level ·) : Task σ PUnit).Ends := by
  induction texts with
  | nil => exact fun _ => .done _
  | cons text rest ih => exact fun s => .call fun _ => ih s

@[grind ←] theorem Ends.bind {t : Task σ α} {f : α → Task σ β} (h : t.Ends)
    (hf : ∀ a, (f a).Ends) : (t >>= f).Ends := by
  intro s
  rw [start_bind]
  refine (h s).bind ?_
  rintro ⟨e | a, s⟩
  · exact .done _
  · exact hf a s

/-- After a part that has succeeded, a task ends if the rest does. -/
theorem endsAfter_bind {t : Task σ α} {f : α → Task σ β} {s s' : σ} {u v : List (Event World)}
    {a : α} (h : t.Run s u (.ok a) s') (hf : ((f a).start s').EndsAfter v) :
    ((t >>= f).start s).EndsAfter (u ++ v) := by
  rw [start_bind]
  exact .of_bind h hf

theorem endsAfter_bind_ends {t : Task σ α} {f : α → Task σ β} {s : σ} {u : List (Event World)}
    (h : (t.start s).EndsAfter u) (hf : ∀ a, (f a).Ends) : ((t >>= f).start s).EndsAfter u := by
  rw [start_bind]
  refine h.bind ?_
  rintro ⟨e | a, s⟩
  · exact .done _
  · exact hf a s

theorem Ends.get_bind {f : σ → Task σ α} (h : ∀ s, (f s).Ends) : (get >>= f).Ends :=
  fun s => h s s

@[grind ←] theorem Ends.result {t : Task σ α} (h : t.Ends) : t.result.Ends :=
  fun s => (h s).bind fun _ => .done _

@[grind ←] theorem Ends.retry {t : Task σ α} {label : String} {o : RetryOptions Number}
    (h : t.Ends) : (t.retry label o).Ends := by
  have hattempt : ∀ left n, (t.attempt label o n left).Ends := by
    intro left
    induction left using Nat.strongRecOn with
    | ind left ih =>
      intro n
      rw [attempt_eq]
      refine h.result.bind ?_
      rintro (f | a)
      · rw [afterAttempt.eq_def]
        dsimp only
        split
        · exact (Ends.log _ _).bind fun _ => .throw _
        · split
          · exact (Ends.log _ _).bind fun _ => .throw _
          · split
            · exact .throw _
            · exact (Ends.log _ _).bind fun _ => .bind (.ask _) fun _ =>
                ih _ (Nat.lt_succ_self _) _
      · rw [afterAttempt.eq_def]
        dsimp only
        split
        · exact (Ends.log _ _).bind fun _ => .pure a
        · exact .pure a
  exact hattempt _ 1

end Task

end MarketingFlow
