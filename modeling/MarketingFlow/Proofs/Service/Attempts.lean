import MarketingFlow.Proofs.Interaction.Traces
import MarketingFlow.Proofs.Service.Refusals

/-!
# Attempts

Which task an event of a run is part of: which attempt at which operation, and what is left of the
attempts after it. A program is `Heedful` if every refusal falls into an attempt, with the search
for a template as the only exception, and if the attempts then come to the end that the refusal, the
options and the number of the attempt call for.
-/

namespace MarketingFlow

open Program

variable {σ α β γ : Type} {p : Program World γ} {t : List (Event World)} {e : Event World}

/-- The event `e`, after the trace `t` of the program `p`, is one of the task `u`. -/
structure During (u : Task σ α) (p : Program World γ) (t : List (Event World))
    (e : Event World) where
  state : σ
  next : Except Failure α × σ → Program World γ
  before : List (Event World)
  /-- What the task has done so far. -/
  own : List (Event World)
  rest : Program World (Except Failure α × σ)
  trace_eq : t = before ++ own
  reaches : Reaches p before ((u.start state).bind next)
  reaches_rest : Reaches (u.start state) (own ++ [e]) rest

namespace During

variable {u : Task σ α}

/-- Of a task that runs by itself, all events are its own. -/
def self {s : σ} {q : Program World (Except Failure α × σ)}
    (h : Reaches (u.start s) (t ++ [e]) q) : During u (u.start s) t e where
  state := s
  next := .done
  before := []
  own := t
  rest := q
  trace_eq := rfl
  reaches := by
    rw [bind_done]
    exact .here _
  reaches_rest := h

def bind (d : During u p t e) (k : γ → Program World β) : During u (p.bind k) t e :=
  { d with
    next := fun x => (d.next x).bind k
    reaches := by
      rw [← Program.bind_assoc]
      exact d.reaches.bind k }

def after {q : Program World γ} {v : List (Event World)} (d : During u p t e)
    (h : Reaches q v p) : During u q (v ++ t) e :=
  { d with
    before := v ++ d.before
    trace_eq := by rw [List.append_assoc, ← d.trace_eq]
    reaches := h.trans d.reaches }

end During

def Searches (p : Program World γ) (t : List (Event World)) (e : Event World) : Prop :=
  ∃ (σ : Type) (c : Client) (messageId : Json),
    Nonempty (During (c.templateForMessage messageId : Task σ Json) p t e)

/-- The event is one of an operation under retry. -/
structure Attempt (p : Program World γ) (t : List (Event World)) (e : Event World) where
  {σ α : Type}
  operation : Task σ α
  label : String
  options : RetryOptions Number
  number : Nat
  /-- How many attempts may follow. -/
  left : Nat
  attempts_eq : number + left = options.attempts
  /-- This attempt and those that follow. -/
  during : During (operation.attempt label options number left) p t e
  /-- What is left of the operation in this attempt. -/
  called : Program World (Except Failure α × σ)
  reaches_called : Reaches (operation.start during.state) (during.own ++ [e]) called

namespace Attempt

def Over (a : Attempt p t e) : Prop :=
  a.during.rest.Asks World.Call.IsLog

/-- The operation is called again. -/
def Repeated (a : Attempt p t e) : Prop :=
  ∃ u left s, a.left = left + 1 ∧ Reaches a.during.rest u
    ((a.operation.attempt a.label a.options (a.number + 1) left).start s)

/-- Another attempt is due after a refusal of the request: there may be one, its pause can be
computed, and an image was to be uploaded or the message names a passing failure. -/
def Due (a : Attempt p t e) (r : Request) (f : Failure) : Prop :=
  0 < a.left ∧ (∃ delay, a.options.delayAfter a.number = .ok delay) ∧
    (r.UploadsImage ∨ ∃ name ∈ RetryOptions.transient, Text.contains f.message name = true)

/-- The operation raises the failure, and it is called again if and only if another attempt is
due. -/
structure Heeds (a : Attempt p t e) (r : Request) (f : Failure) : Prop where
  raised : ∀ u x, Reaches a.called u (.done x) → x.1 = .error f
  repeated : a.Due r f → a.Repeated
  closed : ¬ a.Due r f → a.Over

end Attempt

/-- The event is one of the search for a template or of an attempt that heeds the failure. -/
def Heeded (p : Program World γ) (t : List (Event World)) (e : Event World) (r : Request)
    (f : Failure) : Prop :=
  Searches p t e ∨ ∃ a : Attempt p t e, a.Heeds r f

namespace Heeded

variable {r : Request} {f : Failure} (h : Heeded p t e r f)

include h

theorem bind (k : γ → Program World β) : Heeded (p.bind k) t e r f := by
  rcases h with ⟨σ, c, id, ⟨d⟩⟩ | ⟨a, ha⟩
  · exact .inl ⟨σ, c, id, ⟨d.bind k⟩⟩
  · exact .inr ⟨{ a with during := a.during.bind k }, ha.raised, ha.repeated, ha.closed⟩

theorem after {q : Program World γ} {v : List (Event World)} (hq : Reaches q v p) :
    Heeded q (v ++ t) e r f := by
  rcases h with ⟨σ, c, id, ⟨d⟩⟩ | ⟨a, ha⟩
  · exact .inl ⟨σ, c, id, ⟨d.after hq⟩⟩
  · exact .inr ⟨{ a with during := a.during.after hq }, ha.raised, ha.repeated, ha.closed⟩

end Heeded

namespace Program

def Heedful (p : Program World γ) : Prop :=
  ∀ t r reply q f, Reaches p (t ++ [⟨.send r, reply⟩]) q →
    Event.refusal? ⟨.send r, reply⟩ = some f → Heeded p t ⟨.send r, reply⟩ r f

theorem Heedful.bind {p : Program World α} {k : α → Program World β} (hp : p.Heedful)
    (hk : ∀ a, (k a).Heedful) : (p.bind k).Heedful := by
  intro t r reply q f h hf
  rcases h.of_bind_concat with ⟨p', hp'⟩ | ⟨u, v, a, rfl, hdone, hrest⟩
  · exact (hp t r reply p' f hp' hf).bind k
  · exact (hk a v r reply q f hrest hf).after (hdone.bind k)

theorem Heedful.quiet (h : p.Asks fun c : World.Call => ∀ r, c ≠ .send r) : p.Heedful := by
  intro t r reply q f hq _
  exact absurd rfl (h.reaches hq ⟨.send r, reply⟩ (by simp) r)

theorem Heedful.done (a : γ) : (done a : Program World γ).Heedful :=
  .quiet trivial

end Program

namespace Task

def Heedful (t : Task σ α) : Prop :=
  ∀ s, (t.start s).Heedful

theorem Heedful.bind {t : Task σ α} {f : α → Task σ β} (h : t.Heedful)
    (hf : ∀ a, (f a).Heedful) : (t >>= f).Heedful := by
  intro s
  rw [start_bind]
  refine (h s).bind ?_
  rintro ⟨e | a, s⟩
  · exact .done _
  · exact hf a s

theorem Heedful.quiet {t : Task σ α} (h : t.Calls fun c => ∀ r, c ≠ .send r) : t.Heedful :=
  fun s => .quiet (h s)

theorem start_result_bind (t : Task σ α) (f : Except Failure α → Task σ β) (s : σ) :
    (t.result >>= f).start s = (t.start s).bind fun x => (f x.1).start x.2 := by
  rw [start_bind, start_result, Program.bind_assoc]
  rfl

section

variable {t : Task σ α} {label : String} {o : RetryOptions Number} {n left : Nat} {f : Failure}

theorem calls_log_afterAttempt (h : ¬ (f.isRetryable o.retryable = true ∧ 0 < left ∧
    ∃ delay, o.delayAfter n = .ok delay)) :
    (t.afterAttempt label o n left (.error f)).Calls World.Call.IsLog := by
  rw [afterAttempt.eq_def]
  dsimp only
  split
  · exact .bind (.ask trivial) fun _ => .throw _
  · rename_i hretryable
    split
    · exact .bind (.ask trivial) fun _ => .throw _
    · split
      · exact .throw _
      · rename_i delay hdelay
        exact absurd ⟨by simpa using hretryable, Nat.succ_pos _, delay, hdelay⟩ h

theorem reaches_ask_bind {c : World.Call} {k : c.Answer → Task σ α} {s : σ}
    {u : List (Event World)} {q : Program World (Except Failure α × σ)} (answer : c.Answer)
    (h : Reaches ((k answer).start s) u q) :
    Reaches ((ask c >>= k).start s) (⟨c, answer⟩ :: u) q :=
  @Reaches.call World _ c (fun answer => (k answer).start s) u q answer h

theorem reaches_afterAttempt (hretryable : f.isRetryable o.retryable = true) {delay : Number}
    (hdelay : o.delayAfter n = .ok delay) (s : σ) :
    ∃ u, Reaches ((t.afterAttempt label o n (left + 1) (.error f)).start s) u
      ((t.attempt label o (n + 1) left).start s) := by
  rw [afterAttempt.eq_def]
  dsimp only
  rw [hretryable, hdelay]
  exact ⟨_, reaches_ask_bind (c := .log _ _) () (reaches_ask_bind (c := .sleep _) () (.here _))⟩

/-- What is left of the attempts when the operation has given in. -/
theorem heeds_of_guards {u : List (Event World)} {A : Request → Prop} {a : Attempt p u e}
    {r : Request}
    (hrest : a.during.rest = a.called.bind fun x =>
      (a.operation.afterAttempt a.label a.options a.number a.left x.1).start x.2)
    (hguards : a.called.Guards (Refusal.monitor A) (fun g x => ∀ f, g = some f → x.1 = .error f)
      (some f))
    (hretryable : f.isRetryable a.options.retryable = true ↔
      r.UploadsImage ∨ ∃ name ∈ RetryOptions.transient, Text.contains f.message name = true) :
    a.Heeds r f where
  raised _ _ hx := hguards.of_reaches_done hx f rfl
  repeated := by
    rintro ⟨hleft, ⟨delay, hdelay⟩, hdue⟩
    obtain ⟨left, hleft⟩ := Nat.exists_eq_succ_of_ne_zero (Nat.ne_of_gt hleft)
    obtain ⟨w, ⟨x, s⟩, hw, hx⟩ := hguards.exists_done
    obtain rfl : x = .error f := hx f rfl
    obtain ⟨v, hv⟩ := reaches_afterAttempt (hretryable.mpr hdue) hdelay s
    refine ⟨w ++ v, left, s, hleft, ?_⟩
    rw [hrest]
    refine (hw.bind _).trans ?_
    rw [hleft]
    exact hv
  closed hdue := by
    rw [Attempt.Over, hrest]
    refine hguards.asks_log_bind ?_
    rintro ⟨x, s⟩ hx
    obtain rfl : x = .error f := hx f rfl
    refine calls_log_afterAttempt ?_ s
    rintro ⟨hagain, hleft, hdelay⟩
    exact hdue ⟨hleft, hdelay, hretryable.mp hagain⟩

theorem Heedful.afterAttempt (h : ∀ left', left = left' + 1 →
    (t.attempt label o (n + 1) left').Heedful) (r : Except Failure α) :
    (t.afterAttempt label o n left r).Heedful := by
  have hlog : ∀ level text, (log level text : Task σ Unit).Heedful :=
    fun _ _ => .quiet (.ask fun _ => by simp)
  have hthrow : ∀ e, (throw e : Task σ α).Heedful := fun e => .quiet (.throw e)
  rw [afterAttempt.eq_def]
  split
  · dsimp only
    split
    · exact .bind (hlog _ _) fun _ => .quiet (.pure _)
    · exact .quiet (.pure _)
  · split
    · exact .bind (hlog _ _) fun _ => hthrow _
    · split
      · exact .bind (hlog _ _) fun _ => hthrow _
      · split
        · exact hthrow _
        · refine .bind (hlog _ _) fun _ => .bind (.quiet (.ask fun _ => by simp)) fun _ => ?_
          exact h _ rfl

end

section

variable {A : Request → Prop} {t : Task σ α} {o : RetryOptions Number} (ht : t.GivesIn A)
  (hA : ∀ r, A r → (r.UploadsImage ↔ o.retryable = []))
  (ho : o.retryable = [] ∨ o.retryable = RetryOptions.transient)

include hA ho

theorem isRetryable_iff {r : Request} {reply : Reply} {f : Failure} (hr : A r)
    (hf : Event.refusal? ⟨.send r, reply⟩ = some f) : f.isRetryable o.retryable = true ↔
      r.UploadsImage ∨ ∃ name ∈ RetryOptions.transient, Text.contains f.message name = true := by
  rcases ho with ho | ho
  · have hupload : r.UploadsImage := (hA r hr).mpr ho
    rw [ho]
    exact iff_of_true rfl (.inl hupload)
  · have hnone : ¬ r.UploadsImage := by
      intro hupload
      have hempty := (hA r hr).mp hupload
      rw [ho] at hempty
      cases hempty
    rw [ho, Event.isRetryable_of_refusal hf, or_iff_right hnone]

include ht

/-- One attempt: a refusal falls into it, or into one of those that follow. -/
theorem heedful_attempt {label : String} {n left : Nat} (hn : n + left = o.attempts)
    (hnext : ∀ left', left = left' + 1 → (t.attempt label o (n + 1) left').Heedful) :
    (t.attempt label o n left).Heedful := by
  intro s u r reply q f h hf
  have hstart : (t.attempt label o n left).start s =
      (t.start s).bind fun x => (t.afterAttempt label o n left x.1).start x.2 := by
    rw [attempt_eq, start_result_bind]
  have hbind := h
  rw [hstart] at hbind
  rcases hbind.of_bind_concat with ⟨called, hcalled⟩ | ⟨v, w, x, rfl, hdone, hrest⟩
  · right
    obtain ⟨hr, hguards⟩ := ht.guards_of_refusal hcalled hf
    have hall : Reaches ((t.attempt label o n left).start s) (u ++ [⟨.send r, reply⟩])
        (called.bind fun x => (t.afterAttempt label o n left x.1).start x.2) := by
      rw [hstart]
      exact hcalled.bind _
    exact ⟨
      { operation := t
        label := label
        options := o
        number := n
        left := left
        attempts_eq := hn
        during := .self hall
        called := called
        reaches_called := hcalled },
      heeds_of_guards rfl hguards (isRetryable_iff hA ho hr hf)⟩
  · -- The attempt is over, and the refusal falls into what follows it.
    have hgone : Reaches ((t.attempt label o n left).start s) v
        ((t.afterAttempt label o n left x.1).start x.2) := by
      rw [hstart]
      exact hdone.bind _
    exact (Heedful.afterAttempt hnext x.1 x.2 w r reply q f hrest hf).after hgone

theorem Heedful.attempt (label : String) {n left : Nat} (hn : n + left = o.attempts) :
    (t.attempt label o n left).Heedful := by
  induction left generalizing n with
  | zero =>
    refine heedful_attempt ht hA ho hn ?_
    rintro _ ⟨⟩
  | succ left ih =>
    refine heedful_attempt ht hA ho hn ?_
    rintro _ ⟨rfl⟩
    exact ih (by omega)

theorem Heedful.retry (label : String) : (t.retry label o).Heedful := by
  have hattempts : 1 ≤ o.attempts := by
    rw [RetryOptions.attempts]
    omega
  rw [retry_eq]
  exact Heedful.attempt ht hA ho label (by omega)

end

end Task

end MarketingFlow
