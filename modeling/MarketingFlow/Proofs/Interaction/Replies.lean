import MarketingFlow.Proofs.Interaction.Exchanges

/-!
# What the replies decide

A task that does no more than consult the service learns nothing but replies, so it is settled by
them: two of its runs that are given the same replies are the same run. `t.May x r` says that the
task may exchange `x` and come to `r`; `t.Amounts x r` says that it does, and that it does nothing
else where the service replies as in `x`.
-/

namespace MarketingFlow

/-- A request, or a call that tells nothing. -/
def World.Call.Consults : World.Call → Prop
  | .send _ => True
  | .log _ _ => True
  | .sleep _ => True
  | _ => False

/-- The replies of both come from one sequence, as far as they go. -/
def Agree (x y : List Exchange) : Prop :=
  ∃ replies, x.map Exchange.reply <+: replies ∧ y.map Exchange.reply <+: replies

theorem agree_of_reply_eq {x y : List Exchange}
    (h : x.map Exchange.reply = y.map Exchange.reply) : Agree x y :=
  ⟨_, List.prefix_rfl, h ▸ List.prefix_rfl⟩

theorem Agree.of_cons {r : Request} {reply reply' : Reply} {x y : List Exchange}
    (h : Agree (⟨r, reply⟩ :: x) (⟨r, reply'⟩ :: y)) : reply = reply' ∧ Agree x y := by
  obtain ⟨replies, hx, hy⟩ := h
  cases replies with
  | nil => cases hx.length_le
  | cons first rest =>
    obtain ⟨hfirst, hx⟩ := List.cons_prefix_cons.mp hx
    obtain ⟨hfirst', hy⟩ := List.cons_prefix_cons.mp hy
    exact ⟨hfirst.trans hfirst'.symm, rest, hx, hy⟩

theorem Agree.of_events {c : World.Call} (hc : c.Consults) {answer answer' : World.Answer c}
    {t u : List (Event World)}
    (h : Agree (exchanges (⟨c, answer⟩ :: t)) (exchanges (⟨c, answer'⟩ :: u))) :
    answer = answer' ∧ Agree (exchanges t) (exchanges u) := by
  cases c with
  | send r => exact h.of_cons
  | log level text => exact ⟨rfl, h⟩
  | sleep seconds => exact ⟨rfl, h⟩
  | _ => cases hc

/-- The replies decide the run. -/
theorem Program.Reaches.eq_of_agree {α : Type} {p : Program World α}
    (hp : p.Asks World.Call.Consults) {t u : List (Event World)} {a b : α}
    (h : Reaches p t (.done a)) (h' : Reaches p u (.done b))
    (hagree : Agree (exchanges t) (exchanges u)) : t = u ∧ a = b := by
  generalize hr : Program.done a = r at h
  -- On the first run: at each call the second one got the same answer, so it is still beside it.
  induction h generalizing u with
  | here p =>
    subst hr
    obtain ⟨rfl, hab⟩ := h'.of_done
    exact ⟨rfl, hab⟩
  | call answer _ ih =>
    cases h' with
    | call answer' h' =>
      obtain ⟨rfl, hrest⟩ := hagree.of_events hp.1
      obtain ⟨rfl, hab⟩ := ih (hp.2 answer) h' hrest hr
      exact ⟨rfl, hab⟩
  | enter _ ih =>
    cases h' with
    | enter h' => exact ih (Asks.round hp) h' hagree hr

namespace Task

variable {σ α β : Type} {t : Task σ α} {x y : List Exchange} {r : Except Failure α}
  {e : Failure}

/-- From every state, the task may exchange `x` and come to `r`, with its state as it was. -/
def May (t : Task σ α) (x : List Exchange) (r : Except Failure α) : Prop :=
  ∀ s, ∃ u, t.Run s u r s ∧ exchanges u = x

/-- It does, and nothing else comes of it where the service replies so. -/
def Amounts (t : Task σ α) (x : List Exchange) (r : Except Failure α) : Prop :=
  ∀ s, (∃ u, t.Run s u r s ∧ exchanges u = x) ∧
    ∀ u r' s', t.Run s u r' s' → Agree x (exchanges u) → exchanges u = x ∧ r' = r ∧ s' = s

theorem May.amounts (h : t.May x r) (ht : t.Calls World.Call.Consults) : t.Amounts x r := by
  intro s
  obtain ⟨u, hu, rfl⟩ := h s
  refine ⟨⟨u, hu, rfl⟩, fun v r' s' hv hagree => ?_⟩
  obtain ⟨rfl, hend⟩ := hu.eq_of_agree (ht s) hv hagree
  cases hend
  exact ⟨rfl, rfl, rfl⟩

theorem Amounts.unique {r' : Except Failure α} [Nonempty σ] (h : t.Amounts x r)
    (h' : t.Amounts x r') : r' = r := by
  obtain ⟨s⟩ := ‹Nonempty σ›
  obtain ⟨⟨u, hu, rfl⟩, -⟩ := h' s
  exact ((h s).2 u r' s hu (agree_of_reply_eq rfl)).2.1

/-! ## Rules -/

theorem May.ofExcept (r : Except Failure α) : (ofExcept r : Task σ α).May [] r :=
  fun _ => ⟨[], .here _, rfl⟩

theorem May.pure (a : α) : (pure a : Task σ α).May [] (.ok a) :=
  May.ofExcept (.ok a)

theorem May.throw (e : Failure) : (throw e : Task σ α).May [] (.error e) :=
  May.ofExcept (.error e)

section

variable {f : α → Task σ β} {r : Except Failure β} {a : α}

theorem run_bind_ok {s s₁ s' : σ} {u v : List (Event World)} (h : t.Run s u (.ok a) s₁)
    (hf : (f a).Run s₁ v r s') : (t >>= f).Run s (u ++ v) r s' := by
  rw [Run, start_bind]
  exact (h.bind _).trans hf

theorem run_bind_error {s s' : σ} {u : List (Event World)} (h : t.Run s u (.error e) s') :
    (t >>= f).Run s u (.error e) s' := by
  rw [Run, start_bind]
  exact h.bind _

theorem May.bind (h : t.May x (.ok a)) (hf : (f a).May y r) : (t >>= f).May (x ++ y) r := by
  intro s
  obtain ⟨u, hu, rfl⟩ := h s
  obtain ⟨v, hv, rfl⟩ := hf s
  exact ⟨u ++ v, run_bind_ok hu hv, exchanges_append u v⟩

theorem May.bind_error (h : t.May x (.error e)) : (t >>= f).May x (.error e) := by
  intro s
  obtain ⟨u, hu, rfl⟩ := h s
  exact ⟨u, run_bind_error hu, rfl⟩

theorem May.result_bind {f : Except Failure α → Task σ β} {r' : Except Failure α}
    (h : t.May x r') (hf : (f r').May y r) : (t.result >>= f).May (x ++ y) r := by
  refine May.bind (a := r') (fun s => ?_) hf
  obtain ⟨u, hu, rfl⟩ := h s
  exact ⟨u, hu.bind _, rfl⟩

theorem May.quiet_bind {c : World.Call} [c.Unsent] {f : c.Answer → Task σ β} (answer : c.Answer)
    (hf : (f answer).May x r) : (Task.ask c >>= f).May x r := by
  intro s
  obtain ⟨u, hu, rfl⟩ := hf s
  refine ⟨⟨c, answer⟩ :: u, Program.Reaches.call (I := World) (c := c) answer hu, ?_⟩
  exact List.filterMap_cons_none (World.Call.Unsent.exchange?_eq_none answer)

theorem May.log_bind {level : Level} {text : String} {f : Unit → Task σ β}
    (hf : (f ()).May x r) : (Task.log level text >>= f).May x r :=
  .quiet_bind () hf

theorem May.send_bind {request : Request} {f : Reply → Task σ β} (reply : Reply)
    (hf : (f reply).May x r) :
    (Task.ask (.send request) >>= f).May (⟨request, reply⟩ :: x) r := by
  intro s
  obtain ⟨u, hu, rfl⟩ := hf s
  refine ⟨⟨.send request, reply⟩ :: u, ?_, rfl⟩
  exact Program.Reaches.call (I := World) (c := .send request) reply hu

end

section

variable {body : β → Task σ (β ⊕ α)} {b b' : β}

theorem May.loop_error (h : (body b).May x (.error e)) : (loop body b).May x (.error e) := by
  intro s
  obtain ⟨u, hu, rfl⟩ := h s
  exact ⟨u, .enter ((hu.bind _).bind _), rfl⟩

theorem May.loop_leave {a : α} (h : (body b).May x (.ok (.inr a))) :
    (loop body b).May x (.ok a) := by
  intro s
  obtain ⟨u, hu, rfl⟩ := h s
  exact ⟨u, .enter ((hu.bind _).bind _), rfl⟩

theorem May.loop_again (h : (body b).May x (.ok (.inl b'))) (hrest : (loop body b').May y r) :
    (loop body b).May (x ++ y) r := by
  intro s
  obtain ⟨u, hu, rfl⟩ := h s
  obtain ⟨v, hv, rfl⟩ := hrest s
  exact ⟨u ++ v, .enter (((hu.bind _).bind _).trans hv), exchanges_append u v⟩

end

end Task

end MarketingFlow
