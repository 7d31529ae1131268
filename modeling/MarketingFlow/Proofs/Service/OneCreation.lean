import MarketingFlow.Proofs.Service.Stages

/-!
# One creation

A monitor of the creation of flows and of the steps in the visual builder: once a flow is created,
no other is, and only the re-entry policy is still set by steps. A build through the service passes
it. What carries this over the repeated attempts is that after a creation only accidents can happen,
which are not tried again.
-/

namespace MarketingFlow

/-- A flow is created. -/
def Event.isCreation : Event World → Bool
  | ⟨.send r, (reply : Reply)⟩ => r.asksForFlow && reply.isSuccess
  | _ => false

/-- A step in the visual builder that does more than set the re-entry policy. -/
def Event.isBuilding : Event World → Bool
  | ⟨.perform s, _⟩ => s.operation != .setReentry
  | _ => false

/-- How far a build has come: nothing is there yet, a flow was created, or one was begun by steps.
-/
inductive Stage where
  | empty
  | created
  | begun
  deriving DecidableEq

namespace Stage

def next : Stage → Event World → Stage
  | empty, e => if e.isCreation then created else if e.isBuilding then begun else empty
  | s, _ => s

def allows : Stage → Event World → Prop
  | empty, _ => True
  | created, e => e.isCreation = false ∧ e.isBuilding = false
  | begun, e => e.isCreation = false

/-- The monitor that lets a flow come into being only once. -/
def monitor : Monitor World :=
  ⟨Stage, allows, next, fun _ => True⟩

theorem ignores {e : Event World} (hc : e.isCreation = false) (hb : e.isBuilding = false) :
    monitor.Ignores e := by
  rintro (_ | _ | _)
  · exact ⟨trivial, by simp [monitor, next, hc, hb]⟩
  · exact ⟨⟨hc, hb⟩, rfl⟩
  · exact ⟨hc, rfl⟩

theorem discreet_monitor : monitor.Discreet where
  log _ _ _ _ := ignores rfl rfl
  response _ _ := ignores rfl rfl
  sleep _ _ := ignores rfl rfl

theorem keeps_plain (s : Stage) : monitor.Keeps World.Call.Plain s := by
  intro c answer h
  cases c with
  | send r =>
    refine ignores ?_ rfl s
    change (r.asksForFlow && Reply.isSuccess answer) = false
    rw [Request.not_asksForFlow_of_plain h, Bool.false_and]
  | perform step =>
    refine ignores rfl ?_ s
    rw [Event.isBuilding, show step.operation = .setReentry from h]
    rfl
  | _ => exact ignores rfl rfl s

theorem not_isBuilding_of_isCreation {e : Event World} (h : e.isCreation = true) :
    e.isBuilding = false := by
  obtain ⟨c, answer⟩ := e
  cases c with
  | send r => rfl
  | _ => cases h

theorem countP_isCreation_eq_zero {t : List (Event World)} (h : ∀ e ∈ t, e.isCreation = false) :
    t.countP Event.isCreation = 0 :=
  List.countP_eq_zero.mpr fun e he => Bool.eq_false_iff.mp (h e he)

theorem accepts_created {t : List (Event World)} (h : monitor.Accepts created t) :
    ∀ e ∈ t, e.isCreation = false ∧ e.isBuilding = false :=
  Monitor.allows_of_accepts (fun _ _ => rfl) h

theorem accepts_begun {t : List (Event World)} (h : monitor.Accepts begun t) :
    ∀ e ∈ t, e.isCreation = false :=
  Monitor.allows_of_accepts (fun _ _ => rfl) h

/-- What the monitor lets pass from the start. -/
theorem accepts_empty {t : List (Event World)} (h : monitor.Accepts empty t) :
    t.countP Event.isCreation ≤ 1 ∧
      ((∃ e ∈ t, e.isCreation = true) → ∀ e ∈ t, e.isBuilding = false) := by
  induction t with
  | nil => simp
  | cons e t ih =>
    obtain ⟨-, ht⟩ := h
    cases hc : e.isCreation with
    | true =>
      have hnext : monitor.next empty e = created := by simp [monitor, next, hc]
      rw [hnext] at ht
      have hrest := accepts_created ht
      have hnone := countP_isCreation_eq_zero fun e' he' => (hrest e' he').1
      rw [List.countP_cons_of_pos hc, hnone]
      refine ⟨Nat.le_refl 1, fun _ => List.forall_mem_cons.mpr ⟨?_, fun e' he' => ?_⟩⟩
      · exact not_isBuilding_of_isCreation hc
      · exact (hrest e' he').2
    | false =>
      rw [List.countP_cons_of_neg (by simp [hc])]
      have hlater : (∃ e' ∈ e :: t, e'.isCreation = true) → ∃ e' ∈ t, e'.isCreation = true := by
        simp [hc]
      cases hb : e.isBuilding with
      | true =>
        have hnext : monitor.next empty e = begun := by simp [monitor, next, hc, hb]
        rw [hnext] at ht
        have hrest := accepts_begun ht
        have hnone := countP_isCreation_eq_zero hrest
        refine ⟨by omega, fun hcreated => ?_⟩
        obtain ⟨e', he', hcreated⟩ := hlater hcreated
        rw [hrest e' he'] at hcreated
        cases hcreated
      | false =>
        have hnext : monitor.next empty e = empty := by simp [monitor, next, hc, hb]
        rw [hnext] at ht
        obtain ⟨hcount, hsteps⟩ := ih ht
        refine ⟨hcount, fun hcreated => ?_⟩
        exact List.forall_mem_cons.mpr ⟨hb, hsteps (hlater hcreated)⟩

end Stage

/-! ## The build through the service -/

open Stage

variable {σ α β : Type}

namespace Client

variable (c : Client)

/-- What an attempt to create the flow comes to: nothing, or a flow and at worst an accident. -/
def Attempted (s : Stage) (r : Except Failure α) : Prop :=
  s = empty ∨ s = created ∧ ∀ e, r = .error e → e.Accident

theorem Attempted.error {s : Stage} {a : α} {e : Failure} (h : Attempted s (.ok a))
    (he : e.Accident) : Attempted s (.error e : Except Failure β) := by
  rcases h with hs | ⟨hs, -⟩
  · exact .inl hs
  · refine .inr ⟨hs, ?_⟩
    rintro _ ⟨rfl⟩
    exact he

theorem holds_createFlow (h : c.HasKind) (payload : Json) :
    (c.createFlow payload : Task σ Json).Holds monitor Attempted empty := by
  rw [createFlow]
  refine .log_bind discreet_monitor ?_
  refine (holds_send (Q := Attempted) discreet_monitor.toAttentive ?_ ?_ ?_).bind ?_ ?_
  · trivial
  · intro e _
    exact .inl rfl
  · intro r reply hr
    refine ⟨trivial, ?_⟩
    change Attempted (Stage.next empty ⟨.send r, reply⟩) _
    rw [Stage.next]
    split
    · rename_i hc
      simp only [Event.isCreation, Bool.and_eq_true] at hc
      have hpath : ∃ cs, "/flows/".toList = '/' :: cs := ⟨_, rfl⟩
      have hbase := base_scheme_ne_nil hpath hr (Request.scheme_ne_nil_of_asksForFlow hc.1)
      exact .inr ⟨rfl, fun e he => accident_of_resultOf (h.checkKind hbase hpath hr) hc.2 he⟩
    · exact .inl rfl
  · intro s answer hs
    refine .ofExcept_bind (fun data _ => ?_) fun e he => hs.error ?_
    · refine .ofExcept_bind (fun id _ => ?_) fun e he => hs.error (Failure.accident_of_get he)
      refine .ofExcept_bind (fun name _ => ?_) fun e he => hs.error ?_
      · exact .log_bind discreet_monitor (.pure hs)
      · exact Failure.accident_of_get_get he
    · exact Failure.accident_of_get_orEmpty he
  · intro s e he
    exact he

end Client

namespace Creator

variable (k : Creator)

/-- What the creation comes to after all attempts. -/
def Tried (s : Stage) (r : Except Failure α) : Prop :=
  s = empty ∨ s = created ∧ ∀ e, r = .error e → e.foreseen = false

theorem Tried.error {s : Stage} {a : α} {e : Failure} (h : Tried s (.ok a)) (he : e.Accident) :
    Tried s (.error e : Except Failure β) := by
  rcases h with hs | ⟨hs, -⟩
  · exact .inl hs
  · refine .inr ⟨hs, ?_⟩
    rintro _ ⟨rfl⟩
    exact he.1

theorem holds_create (h : k.client.HasKind) (creation : Payload.Creation) :
    (k.create creation).Holds monitor Tried empty := by
  rw [create]
  refine (Task.Holds.retry (A := fun s => s = empty) (P := Client.Attempted) (Q := Tried)
    discreet_monitor ?_ ?_ ?_ ?_ ?_ rfl).bind ?_ ?_
  · rintro _ rfl
    exact k.client.holds_createFlow h _
  · rintro s answer (hs | ⟨hs, -⟩)
    · exact .inl hs
    · refine .inr ⟨hs, ?_⟩
      rintro e ⟨⟩
  · rintro s f (hs | ⟨-, hf⟩) hretryable
    · exact hs
    · exact absurd hretryable (Bool.eq_false_iff.mp (hf f rfl).2)
  · rintro s f note (hs | ⟨hs, hf⟩)
    · exact .inl hs
    · refine .inr ⟨hs, ?_⟩
      rintro _ ⟨rfl⟩
      exact (hf f rfl).1
  · rintro s f e n (hs | ⟨-, hf⟩) hretryable - - -
    · exact .inl hs
    · exact absurd hretryable (Bool.eq_false_iff.mp (hf f rfl).2)
  · intro s answer hs
    refine .ofExcept ?_
    cases hid : createdId answer with
    | ok id =>
      rcases hs with hs | ⟨hs, -⟩
      · exact .inl hs
      · refine .inr ⟨hs, ?_⟩
        rintro e ⟨⟩
    | error e => exact hs.error (Failure.accident_of_get_get hid)
  · exact fun s e hs => hs

/-- What a build comes to: no flow so far, or a flow, and then success or a failure that is raised.
-/
def Built (s : Stage) (r : Except Failure BuildResult) : Prop :=
  s = empty ∨ s = created ∧ ∀ result, r = .ok result → result.success = true

theorem built_error {s : Stage} {e : Failure} (hs : s = empty ∨ s = created) :
    Built s (.error e) := by
  refine hs.imp_right fun hs => ⟨hs, ?_⟩
  rintro result ⟨⟩

theorem built_success {s : Stage} {result : BuildResult} (hs : s = empty ∨ s = created)
    (h : result.success = true) : Built s (.ok result) := by
  refine hs.imp_right fun hs => ⟨hs, ?_⟩
  rintro _ ⟨rfl⟩
  exact h

theorem holds_fail_stage {s : Stage} {e : Failure} (h : Tried s (.error e : Except Failure Json))
    (r : BuildResult) : (fail r e).Holds monitor Built s := by
  rw [fail]
  cases he : e.foreseen with
  | true =>
    have hs : s = empty := by
      rcases h with hs | ⟨-, hf⟩
      · exact hs
      · rw [hf e rfl] at he
        cases he
    exact .log_bind discreet_monitor (.pure (.inl hs))
  | false => exact .throw (built_error (h.imp_right And.left))

theorem holds_build_stage (f : Flow) : (k.build f).Holds monitor Built empty := by
  refine holds_build (P := Tried) discreet_monitor (keeps_plain empty) trivial (fun _ => .inl rfl)
    k.holds_create ?_ ?_
  · exact fun s e r hs => holds_fail_stage hs r
  · intro s flowId r prepared hs _ _
    replace hs := hs.imp_right And.left
    refine holds_complete (K := fun s' => s' = s) discreet_monitor (fun url pending => ?_) ?_ rfl
    · refine ((k.plain_pass f flowId url pending).holds_of_keeps (keeps_plain s) trivial).mono ?_
      rintro _ (e | outcome) rfl
      · exact built_error hs
      · rfl
    · rintro _ result rfl hsuccess - -
      exact built_success hs hsuccess

end Creator

end MarketingFlow
