import MarketingFlow.Proofs.Interaction.Tasks

/-!
# The traces of a task

What is left of two programs in sequence is left of the first, or the first is done and it is left
of the second. `t.Traces P` says that `P` holds of all calls and answers of every run of the task
`t` that ends, and of its result.
-/

namespace MarketingFlow

namespace Program

variable {I : Interface} {α β : Type}

theorem Reaches.of_bind {p : Program I α} {f : α → Program I β} {t : List (Event I)}
    {q : Program I β} (h : Reaches (p.bind f) t q) :
    (∃ p', Reaches p t p' ∧ q = p'.bind f) ∨
      ∃ u v a, t = u ++ v ∧ Reaches p u (.done a) ∧ Reaches (f a) v q := by
  generalize hr : p.bind f = r at h
  induction h generalizing α with
  | here r => exact .inl ⟨p, .here p, hr.symm⟩
  | call answer h ih =>
    cases p with
    | done a =>
      replace hr : f a = _ := hr
      exact .inr ⟨[], _, a, rfl, .here _, hr ▸ .call answer h⟩
    | call c next =>
      cases hr
      rcases ih rfl with ⟨p', hp', hq⟩ | ⟨u, v, a, rfl, hp, hf⟩
      · exact .inl ⟨p', .call answer hp', hq⟩
      · exact .inr ⟨_, v, a, List.cons_append.symm, .call answer hp, hf⟩
    | loop body s next => cases hr
  | @enter _ _ body s _ _ _ h ih =>
    cases p with
    | done a =>
      replace hr : f a = _ := hr
      exact .inr ⟨[], _, a, rfl, .here _, hr ▸ .enter h⟩
    | call c next => cases hr
    | loop body' s' next =>
      cases hr
      rcases ih (round_bind body s next f) with ⟨p', hp', hq⟩ | ⟨u, v, a, rfl, hp, hf⟩
      · exact .inl ⟨p', .enter hp', hq⟩
      · exact .inr ⟨u, v, a, rfl, .enter hp, hf⟩

theorem eq_of_bind_eq_done {p : Program I α} {f : α → Program I β} {b : β}
    (h : p.bind f = .done b) : ∃ a, p = .done a ∧ f a = .done b := by
  cases p with
  | done a => exact ⟨a, rfl, h⟩
  | call c next => cases h
  | loop body s next => cases h

/-- A run of two programs in sequence is a run of the first and one of the second. -/
theorem Reaches.of_bind_done {p : Program I α} {f : α → Program I β} {t : List (Event I)} {b : β}
    (h : Reaches (p.bind f) t (.done b)) :
    ∃ u v a, t = u ++ v ∧ Reaches p u (.done a) ∧ Reaches (f a) v (.done b) := by
  rcases h.of_bind with ⟨p', hp', hq⟩ | hsplit
  · obtain ⟨a, rfl, ha⟩ := eq_of_bind_eq_done hq.symm
    exact ⟨t, [], a, (List.append_nil t).symm, hp', ha ▸ .here _⟩
  · exact hsplit

/-- The last event of what two programs in sequence did is one of the first or one of the second. -/
theorem Reaches.of_bind_concat {p : Program I α} {f : α → Program I β} {t : List (Event I)}
    {e : Event I} {q : Program I β} (h : Reaches (p.bind f) (t ++ [e]) q) :
    (∃ p', Reaches p (t ++ [e]) p') ∨
      ∃ u v a, t = u ++ v ∧ Reaches p u (.done a) ∧ Reaches (f a) (v ++ [e]) q := by
  rcases h.of_bind with ⟨p', hp', -⟩ | ⟨u, v, a, hsplit, hp, hf⟩
  · exact .inl ⟨p', hp'⟩
  · rcases List.eq_nil_or_concat v with rfl | ⟨v, last, rfl⟩
    · rw [List.append_nil] at hsplit
      exact .inl ⟨_, hsplit ▸ hp⟩
    · rw [List.concat_eq_append, ← List.append_assoc] at hsplit
      obtain ⟨rfl, hlast⟩ := List.append_inj' hsplit rfl
      cases hlast
      rw [List.concat_eq_append] at hf
      exact .inr ⟨u, v, a, rfl, hp, hf⟩

theorem Reaches.of_done {a b : α} {t : List (Event I)} (h : Reaches (.done a) t (.done b)) :
    t = [] ∧ a = b := by
  cases h
  exact ⟨rfl, rfl⟩

/-- Of all beginnings of a trace at most one leads to a result. -/
theorem Reaches.done_unique {p : Program I α} {t u v w : List (Event I)} {a b : α}
    (h : Reaches p t (.done a)) (h' : Reaches p u (.done b)) (htrace : t ++ v = u ++ w) :
    a = b := by
  generalize hr : Program.done a = r at h
  induction h generalizing u with
  | here p =>
    subst hr
    exact h'.of_done.2
  | call answer _ ih =>
    cases h' with
    | call answer' h' =>
      obtain ⟨hevent, hrest⟩ := List.cons.inj htrace
      cases hevent
      exact ih h' hrest hr
  | enter _ ih =>
    cases h' with
    | enter h' => exact ih h' htrace hr

end Program

namespace Task

variable {σ τ α β : Type}

/-! ## Runs that end -/

/-- From the state `s`, the task ends with the result `r` and the state `s'` after the calls and
answers of `u`. -/
abbrev Run (t : Task σ α) (s : σ) (u : List (Event World)) (r : Except Failure α) (s' : σ) : Prop :=
  Program.Reaches (t.start s) u (.done (r, s'))

section

variable {t : Task σ α} {s s' : σ} {u : List (Event World)} {r : Except Failure β}

theorem run_ofExcept {x x' : Except Failure α} (h : (ofExcept x : Task σ α).Run s u x' s') :
    u = [] ∧ x' = x ∧ s' = s := by
  obtain ⟨rfl, hend⟩ := Program.Reaches.of_done h
  cases hend
  exact ⟨rfl, rfl, rfl⟩

theorem run_result_bind {f : Except Failure α → Task σ β} (h : (t.result >>= f).Run s u r s') :
    ∃ v w x s₁, u = v ++ w ∧ t.Run s v x s₁ ∧ (f x).Run s₁ w r s' := by
  rw [Run, start_bind, start_result, Program.bind_assoc] at h
  obtain ⟨v, w, ⟨x, s₁⟩, rfl, ht, hf⟩ := h.of_bind_done
  exact ⟨v, w, x, s₁, rfl, ht, hf⟩

/-- What follows a task is run where it succeeds, and its failure is that of the whole. -/
theorem run_bind {f : α → Task σ β} (h : (t >>= f).Run s u r s') :
    (∃ v w a s₁, u = v ++ w ∧ t.Run s v (.ok a) s₁ ∧ (f a).Run s₁ w r s') ∨
      ∃ e, r = .error e ∧ t.Run s u (.error e) s' := by
  rw [Run, start_bind] at h
  obtain ⟨v, w, ⟨e | a, s₁⟩, rfl, ht, hf⟩ := h.of_bind_done
  · obtain ⟨rfl, hend⟩ := Program.Reaches.of_done hf
    cases hend
    exact .inr ⟨e, rfl, (List.append_nil v).symm ▸ ht⟩
  · exact .inl ⟨v, w, a, s₁, rfl, ht, hf⟩

theorem run_map {t : Task σ β} {g : β → α} {x : Except Failure α}
    (h : (t >>= fun a => pure (g a)).Run s u x s') : ∃ r, t.Run s u r s' ∧ x = r.map g := by
  rcases run_bind h with ⟨v, w, a, s₁, rfl, ht, hend⟩ | ⟨e, rfl, ht⟩
  · obtain ⟨rfl, hend⟩ := Program.Reaches.of_done hend
    cases hend
    exact ⟨.ok a, (List.append_nil v).symm ▸ ht, rfl⟩
  · exact ⟨.error e, ht, rfl⟩

/-- At every moment of a task and what follows it, the task still runs or it has succeeded. -/
theorem reaches_bind {f : α → Task σ β} {q : Program World (Except Failure β × σ)}
    (h : Program.Reaches ((t >>= f).start s) u q) :
    (∃ p, Program.Reaches (t.start s) u p) ∨
      ∃ v w a s₁, u = v ++ w ∧ t.Run s v (.ok a) s₁ ∧ Program.Reaches ((f a).start s₁) w q := by
  rw [start_bind] at h
  rcases h.of_bind with ⟨p, hp, -⟩ | ⟨v, w, ⟨e | a, s₁⟩, rfl, ht, hf⟩
  · exact .inl ⟨p, hp⟩
  · cases hf
    exact .inl ⟨_, (List.append_nil v).symm ▸ ht⟩
  · exact .inr ⟨v, w, a, s₁, rfl, ht, hf⟩

theorem reaches_map {t : Task σ β} {g : β → α} {q : Program World (Except Failure α × σ)}
    (h : Program.Reaches ((t >>= fun a => pure (g a)).start s) u q) :
    ∃ p, Program.Reaches (t.start s) u p := by
  rcases reaches_bind h with ⟨p, hp⟩ | ⟨v, w, a, s₁, rfl, ht, hend⟩
  · exact ⟨p, hp⟩
  · cases hend
    exact ⟨_, (List.append_nil v).symm ▸ ht⟩

theorem run_ask_bind {c : World.Call} {f : c.Answer → Task σ β} (h : (ask c >>= f).Run s u r s') :
    ∃ answer v, u = ⟨c, answer⟩ :: v ∧ (f answer).Run s v r s' := by
  cases h with
  | call answer h => exact ⟨answer, _, rfl, h⟩

theorem run_get_bind {f : σ → Task σ β}
    (h : (MonadState.get >>= f : Task σ β).Run s u r s') : (f s).Run s u r s' :=
  h

theorem run_within {t : Task τ β} {part : σ → τ} {replace : σ → τ → σ}
    (h : (t.within part replace).Run s u r s') :
    ∃ x, t.Run (part s) u r x ∧ s' = replace s x := by
  rw [Run, start_within] at h
  obtain ⟨v, w, ⟨r₁, x⟩, rfl, ht, hrest⟩ := h.of_bind_done
  obtain ⟨rfl, hend⟩ := Program.Reaches.of_done hrest
  cases hend
  exact ⟨x, (List.append_nil v).symm ▸ ht, rfl⟩

end

/-- The messages of a level, as a trace has them. -/
def messages (level : Level) (texts : List String) : List (Event World) :=
  texts.map fun text => ⟨.log level text, ()⟩

theorem run_logs (level : Level) (texts : List String) (s : σ) :
    (texts.forM (Task.log level ·) : Task σ PUnit).Run s (messages level texts) (.ok ()) s := by
  induction texts with
  | nil => exact .here _
  | cons text rest ih => exact .call (I := World) (c := World.Call.log level text) () ih

theorem eq_of_run_logs {level : Level} {texts : List String} {s s' : σ} {u : List (Event World)}
    {r : Except Failure PUnit}
    (h : (texts.forM (Task.log level ·) : Task σ PUnit).Run s u r s') :
    u = messages level texts ∧ r = .ok () ∧ s' = s := by
  induction texts generalizing u with
  | nil =>
    obtain ⟨rfl, hend⟩ := Program.Reaches.of_done h
    cases hend
    exact ⟨rfl, rfl, rfl⟩
  | cons text rest ih =>
    obtain ⟨answer, v, rfl, hrest⟩ := run_ask_bind h
    obtain ⟨rfl, hr⟩ := ih hrest
    exact ⟨rfl, hr⟩

/-! ## All runs -/

def Traces (t : Task σ α) (P : List (Event World) → Except Failure α → Prop) : Prop :=
  ∀ s u r s', t.Run s u r s' → P u r

section

variable {P : List (Event World) → Except Failure α → Prop}
  {Q : List (Event World) → Except Failure β → Prop}

theorem Traces.mono {R : List (Event World) → Except Failure α → Prop} {t : Task σ α}
    (h : t.Traces P) (hPR : ∀ u r, P u r → R u r) : t.Traces R :=
  fun s u r s' hr => hPR u r (h s u r s' hr)

theorem Traces.and {R : List (Event World) → Except Failure α → Prop} {t : Task σ α}
    (hP : t.Traces P) (hR : t.Traces R) : t.Traces fun u r => P u r ∧ R u r :=
  fun s u r s' hr => ⟨hP s u r s' hr, hR s u r s' hr⟩

theorem Calls.traces {R : World.Call → Prop} {t : Task σ α} (h : t.Calls R) :
    t.Traces fun u _ => ∀ e ∈ u, R e.call :=
  fun s _ _ _ hr => (h s).reaches hr

theorem Traces.ofExcept {r : Except Failure α} (h : P [] r) : (ofExcept r : Task σ α).Traces P := by
  intro s u r' s' hr
  obtain ⟨rfl, rfl, -⟩ := run_ofExcept hr
  exact h

theorem Traces.pure {a : α} (h : P [] (.ok a)) : (pure a : Task σ α).Traces P :=
  Traces.ofExcept h

theorem Traces.throw {e : Failure} (h : P [] (.error e)) : (throw e : Task σ α).Traces P :=
  Traces.ofExcept h

theorem Traces.bind {t : Task σ α} {f : α → Task σ β} (h : t.Traces P)
    (hok : ∀ u a, P u (.ok a) → (f a).Traces fun v r => Q (u ++ v) r)
    (herror : ∀ u e, P u (.error e) → Q u (.error e)) : (t >>= f).Traces Q := by
  intro s u r s' hr
  rcases run_bind hr with ⟨v, w, a, s₁, rfl, ht, hf⟩ | ⟨e, rfl, ht⟩
  · exact hok v a (h s v _ s₁ ht) s₁ w r s' hf
  · exact herror u e (h s u _ s' ht)

theorem Traces.ofExcept_bind {r : Except Failure α} {f : α → Task σ β}
    (hok : ∀ a, r = .ok a → (f a).Traces Q) (herror : ∀ e, r = .error e → Q [] (.error e)) :
    (Task.ofExcept r >>= f).Traces Q := by
  cases r with
  | ok a => exact hok a rfl
  | error e => exact .throw (herror e rfl)

theorem Traces.result_bind {t : Task σ α} {f : Except Failure α → Task σ β} (h : t.Traces P)
    (hf : ∀ u r, P u r → (f r).Traces fun v r => Q (u ++ v) r) : (t.result >>= f).Traces Q := by
  intro s u r s' hr
  obtain ⟨v, w, x, s₁, rfl, ht, hrest⟩ := run_result_bind hr
  exact hf v x (h s v x s₁ ht) s₁ w r s' hrest

theorem Traces.ask_bind {c : World.Call} {f : c.Answer → Task σ β}
    (h : ∀ answer, (f answer).Traces fun v r => Q (⟨c, answer⟩ :: v) r) :
    (ask c >>= f).Traces Q := by
  intro s u r s' hr
  obtain ⟨answer, v, rfl, hrest⟩ := run_ask_bind hr
  exact h answer s v r s' hrest

theorem Traces.within {t : Task τ α} {part : σ → τ} {replace : σ → τ → σ} (h : t.Traces P) :
    (t.within part replace).Traces P := by
  intro s u r s' hr
  obtain ⟨x, ht, -⟩ := run_within hr
  exact h (part s) u r x ht

end

end Task

end MarketingFlow
