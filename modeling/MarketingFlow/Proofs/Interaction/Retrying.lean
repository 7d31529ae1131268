import Mathlib.Algebra.Order.Ring.Rat
import Mathlib.Algebra.Order.Ring.Int
import Mathlib.Order.Bounds.Basic
import Mathlib.Tactic.NormNum
import MarketingFlow.Interaction.Program
import MarketingFlow.Proofs.Outcome
import MarketingFlow.Retry

/-!
# What retrying comes to

Under retry, an operation is a stream of outcomes: the first call has the first outcome, and so on.
The last call is the first one that succeeds, fails for good or may not be followed by another. With
delays that are computed without rounding, everything else follows from the number of that call.
-/

namespace MarketingFlow

/-! ## Delays without rounding -/

/-- Numbers of `R` as delays, in computations that never fail or round. -/
class Duration.Exact (R δ : Type) [CommRing R] [LinearOrder R] [Duration δ] where
  delay : R → δ
  grow_delay : ∀ (base factor : R) (n : Nat),
    Duration.grow (delay base) (delay factor) n = .ok (delay (base * factor ^ n))
  least_delay : ∀ x y : R, Duration.least (delay x) (delay y) = delay (min x y)

instance : Duration Rat where
  grow base factor n := .ok (base * factor ^ n)
  least := min
  show2 x := Decimal.fixed 2 (Decimal.nearest (decide (x < 0)) x.num.natAbs x.den)

instance : Duration.Exact Rat Rat where
  delay := id
  grow_delay base factor n := by
    change Except.ok (base * factor ^ (n : Int)) = _
    rw [zpow_natCast]
    rfl
  least_delay _ _ := rfl

theorem Number.lt_int (x y : Int) : (int x).lt (int y) = decide (x < y) := by
  have hplaces : (int x).compare? (int y) = some (compare (x * 1) (y * 1)) := rfl
  rw [lt, hplaces, mul_one, mul_one, Bool.eq_iff_iff, beq_iff_eq, decide_eq_true_iff,
    Option.some.injEq, compare_lt_iff_lt]

instance : Duration.Exact Int Number where
  delay := .int
  grow_delay base factor n := rfl
  least_delay x y := by
    change Number.least (.int x) (.int y) = _
    rw [Number.least, Number.lt_int]
    by_cases h : y < x
    · simp only [h, decide_true, if_true, min_eq_right h.le]
    · simp only [h, decide_false, Bool.false_eq_true, if_false, min_eq_left (not_lt.mp h)]

/-! ## Which failures are final -/

/-- The pattern occurs in one of the texts that a failure is known by. -/
def Failure.Matches (f : Failure) (pattern : String) : Prop :=
  pattern.toList <:+: f.message.toList ∨ pattern.toList <:+: f.className.toList ∨
    f.kindText ≠ "" ∧ pattern.toList <:+: f.kindText.toList

theorem Text.contains_iff (text pattern : String) :
    contains text pattern = true ↔ pattern.toList <:+: text.toList := by
  rw [contains, occursIn_iff]
  constructor
  · rintro ⟨before, after, h⟩
    exact ⟨before, after, h.symm⟩
  · rintro ⟨before, after, h⟩
    exact ⟨before, after, h.symm⟩

theorem Failure.isRetryable_iff (f : Failure) (patterns : List String) :
    f.isRetryable patterns = true ↔ patterns = [] ∨ ∃ p ∈ patterns, f.Matches p := by
  simp only [isRetryable, Bool.or_eq_true, List.isEmpty_iff, List.any_eq_true, Bool.and_eq_true,
    Bool.not_eq_true', Text.contains_iff, Matches, or_assoc, String.isEmpty_eq_false_iff]

namespace RetryOptions

variable {R δ α : Type}

def map (f : R → δ) (o : RetryOptions R) : RetryOptions δ :=
  { maxAttempts := o.maxAttempts
    baseDelay := f o.baseDelay
    backoffFactor := f o.backoffFactor
    maxDelay := f o.maxDelay
    retryable := o.retryable }

/-- A failure that none of the patterns matches, if there are any. -/
def Rejects (o : RetryOptions R) (f : Failure) : Prop :=
  o.retryable ≠ [] ∧ ∀ p ∈ o.retryable, ¬f.Matches p

theorem isRetryable_eq_false_iff (o : RetryOptions R) (f : Failure) :
    f.isRetryable o.retryable = false ↔ o.Rejects f := by
  rw [← Bool.not_eq_true, Failure.isRetryable_iff, not_or, Rejects]
  simp only [not_exists, not_and, ne_eq]

/-- No call follows the call with the number `i`. -/
def Settles (o : RetryOptions R) (outcomes : Nat → Except Failure α) (i : Nat) : Prop :=
  i = o.attempts ∨ (∃ a, outcomes i = .ok a) ∨ ∃ f, outcomes i = .error f ∧ o.Rejects f

/-- What becomes of the outcome of the last call. -/
inductive Concludes (o : RetryOptions R) (label : String) (k : Nat) :
    Except Failure α → Except Failure α → Prop where
  | value (a : α) : Concludes o label k (.ok a) (.ok a)
  | rejected (f : Failure) (h : o.Rejects f) :
    Concludes o label k (.error f)
      (.error (f.addNote (label ++ ": non-retryable failure on attempt " ++ toString k)))
  | exhausted (f : Failure) (h : ¬o.Rejects f) :
    Concludes o label k (.error f)
      (.error (f.addNote (label ++ ": failed after " ++ toString o.attempts ++ " attempt(s)")))

theorem Concludes.of_map {f : R → δ} {o : RetryOptions R} {label : String} {k : Nat}
    {outcome result : Except Failure α} (h : (o.map f).Concludes label k outcome result) :
    o.Concludes label k outcome result := by
  cases h with
  | value a => exact .value a
  | rejected e h => exact .rejected e h
  | exhausted e h => exact .exhausted e h

/-! ## How long the pauses are -/

section

variable [CommRing R] [LinearOrder R]

/-- The pause after the call with the number `n`. -/
def pauseAfter (o : RetryOptions R) (n : Nat) : R :=
  min (o.baseDelay * o.backoffFactor ^ (n - 1)) o.maxDelay

theorem delayAfter_map [Duration δ] [Duration.Exact R δ] (o : RetryOptions R) {n : Nat}
    (hn : 1 ≤ n) :
    (o.map (Duration.Exact.delay (δ := δ))).delayAfter n =
      .ok (Duration.Exact.delay (o.pauseAfter n)) := by
  have hpower : ((n : Int) - 1) = ((n - 1 : Nat) : Int) := by omega
  have hgrow := Duration.Exact.grow_delay (δ := δ) o.baseDelay o.backoffFactor (n - 1)
  rw [delayAfter, hpower]
  simp only [map, hgrow, Outcome.ok_bind, Duration.Exact.least_delay]
  rfl

theorem pauseAfter_le (o : RetryOptions R) (n : Nat) : o.pauseAfter n ≤ o.maxDelay :=
  min_le_right _ _

theorem monotone_pauseAfter [IsStrictOrderedRing R] (o : RetryOptions R) (hbase : 0 ≤ o.baseDelay)
    (hfactor : 1 ≤ o.backoffFactor) : Monotone o.pauseAfter := by
  intro i j hij
  have hpower : o.backoffFactor ^ (i - 1) ≤ o.backoffFactor ^ (j - 1) :=
    pow_le_pow_right₀ hfactor (Nat.sub_le_sub_right hij 1)
  exact min_le_min_right _ (mul_le_mul_of_nonneg_left hpower hbase)

end

end RetryOptions

/-! ## An operation as the stream of its outcomes -/

inductive Trial.Call (δ : Type) where
  | attempt
  | sleep (pause : δ)
  | log (level : Level) (text : String)

/-- The outside of an operation that is retried: the operation itself, a clock and a journal. -/
def Trial (δ α : Type) : Interface where
  Call := Trial.Call δ
  Answer
    | .attempt => Except Failure α
    | .sleep _ => Unit
    | .log _ _ => Unit

namespace Trial

variable {R δ α : Type}

instance : MonadJournal (Program (Trial δ α)) where
  log level text := Program.ask (I := Trial δ α) (.log level text)

instance : MonadSleep δ (Program (Trial δ α)) where
  sleep pause := Program.ask (I := Trial δ α) (.sleep pause)

def attempt : Program (Trial δ α) (Except Failure α) :=
  Program.ask (I := Trial δ α) .attempt

/-- How many calls were made, and the pauses, each with the number of calls before it. -/
structure Account (δ : Type) where
  calls : Nat
  pauses : List (Nat × δ)

def answer (outcomes : Nat → Except Failure α) :
    (c : (Trial δ α).Call) → Account δ → (Trial δ α).Answer c × Account δ
  | .attempt, s => (outcomes (s.calls + 1), { s with calls := s.calls + 1 })
  | .sleep pause, s => ((), { s with pauses := s.pauses ++ [(s.calls, pause)] })
  | .log _ _, s => ((), s)

def observe {β : Type} (outcomes : Nat → Except Failure α) (p : Program (Trial δ α) β)
    (s : Account δ) : Option (β × Account δ) :=
  p.interpret 0 (answer outcomes) s

section

variable {β : Type} (outcomes : Nat → Except Failure α)

theorem observe_attempt_bind (f : Except Failure α → Program (Trial δ α) β) (s : Account δ) :
    observe outcomes (attempt >>= f) s =
      observe outcomes (f (outcomes (s.calls + 1))) { s with calls := s.calls + 1 } := rfl

theorem observe_sleep_bind (pause : δ) (f : Unit → Program (Trial δ α) β) (s : Account δ) :
    observe outcomes (MonadSleep.sleep pause >>= f) s =
      observe outcomes (f ()) { s with pauses := s.pauses ++ [(s.calls, pause)] } := rfl

theorem observe_log_bind (level : Level) (text : String) (f : Unit → Program (Trial δ α) β)
    (s : Account δ) :
    observe outcomes (MonadJournal.log level text >>= f) s = observe outcomes (f ()) s := rfl

theorem observe_pure (b : β) (s : Account δ) :
    observe outcomes (pure b : Program (Trial δ α) β) s = some (b, s) := rfl

end

/-! ## One call -/

section

variable [Duration δ] (outcomes : Nat → Except Failure α) (label : String) (o : RetryOptions δ)
  {n left : Nat}

theorem observe_attemptFrom_settled (hn : 1 ≤ n) (hleft : n + left = o.attempts)
    (h : o.Settles outcomes n) (pauses : List (Nat × δ)) :
    ∃ result, o.Concludes label n (outcomes n) result ∧
      observe outcomes (attemptFrom attempt label o n left) ⟨n - 1, pauses⟩ =
        some (result, ⟨n, pauses⟩) := by
  have hnumber : n - 1 + 1 = n := Nat.sub_add_cancel hn
  rw [attemptFrom.eq_def, observe_attempt_bind]
  simp only [hnumber]
  cases hout : outcomes n with
  | ok a =>
    refine ⟨.ok a, .value a, ?_⟩
    by_cases h : 1 < n
    · simp only [if_pos h, observe_log_bind, observe_pure]
    · simp only [if_neg h]
      rfl
  | error f =>
    have hretryable := o.isRetryable_eq_false_iff f
    by_cases hf : o.Rejects f
    · refine ⟨_, .rejected f hf, ?_⟩
      simp only [hretryable.mpr hf, Bool.not_false, if_true, observe_log_bind, observe_pure]
    · have hagain : f.isRetryable o.retryable = true := by
        rw [← Bool.not_eq_false]
        exact mt hretryable.mp hf
      obtain hlast | ⟨a, hsuccess⟩ | ⟨e, herror, he⟩ := h
      · obtain rfl : left = 0 := by omega
        refine ⟨_, .exhausted f hf, ?_⟩
        simp only [hagain, Bool.not_true, Bool.false_eq_true, if_false, ← hlast, observe_log_bind,
          observe_pure]
      · rw [hout] at hsuccess
        cases hsuccess
      · rw [hout] at herror
        cases herror
        exact absurd he hf

/-- After a call that does not settle the matter all depends on the pause. -/
theorem observe_attemptFrom_unsettled (hn : 1 ≤ n) (hleft : n + left = o.attempts)
    (h : ¬o.Settles outcomes n) (pauses : List (Nat × δ)) :
    ∃ rest, left = rest + 1 ∧
      observe outcomes (attemptFrom attempt label o n left) ⟨n - 1, pauses⟩ =
        match o.delayAfter n with
        | .error e => some (.error e, ⟨n, pauses⟩)
        | .ok pause => observe outcomes (attemptFrom attempt label o (n + 1) rest)
            ⟨n, pauses ++ [(n, pause)]⟩ := by
  have hnumber : n - 1 + 1 = n := Nat.sub_add_cancel hn
  obtain ⟨hmore, hfails⟩ := not_or.mp h
  obtain ⟨hfails, hmatches⟩ := not_or.mp hfails
  obtain ⟨rest, rfl⟩ : ∃ rest, left = rest + 1 := ⟨left - 1, by omega⟩
  refine ⟨rest, rfl, ?_⟩
  rw [attemptFrom.eq_def, observe_attempt_bind]
  simp only [hnumber]
  cases hout : outcomes n with
  | ok a => exact absurd ⟨a, hout⟩ hfails
  | error f =>
    have hagain : f.isRetryable o.retryable = true := by
      rw [← Bool.not_eq_false]
      exact fun hf => hmatches ⟨f, hout, (o.isRetryable_eq_false_iff f).mp hf⟩
    simp only [hagain, Bool.not_true, Bool.false_eq_true, if_false]
    cases o.delayAfter n with
    | error e => rfl
    | ok pause => simp only [observe_log_bind, observe_sleep_bind]

end

/-! ## All calls -/

section

variable [CommRing R] [LinearOrder R] [Duration δ] [Duration.Exact R δ]
  (outcomes : Nat → Except Failure α) (label : String) (o : RetryOptions R)

/-- The pauses after the calls from the number `n` on, before the one with the number `k`. -/
def pausesBetween (o : RetryOptions R) (n k : Nat) : List (Nat × δ) :=
  (List.range' n (k - n)).map fun i => (i, Duration.Exact.delay (o.pauseAfter i))

theorem pausesBetween_self (n : Nat) : pausesBetween (δ := δ) o n n = [] := by
  rw [pausesBetween, Nat.sub_self]
  rfl

theorem pausesBetween_cons {n k : Nat} (h : n < k) :
    pausesBetween (δ := δ) o n k =
      (n, Duration.Exact.delay (o.pauseAfter n)) :: pausesBetween o (n + 1) k := by
  have hlength : k - n = (k - (n + 1)) + 1 := by omega
  rw [pausesBetween, hlength, List.range'_succ]
  rfl

/-- The attempt with the number `n` is the last one, or the next one comes after the pause. -/
theorem observe_attemptFrom_step {n left : Nat} (hn : 1 ≤ n) (hleft : n + left = o.attempts)
    (pauses : List (Nat × δ)) :
    (o.Settles outcomes n ∧ ∃ result, o.Concludes label n (outcomes n) result ∧
      observe outcomes (attemptFrom attempt label (o.map Duration.Exact.delay) n left)
        ⟨n - 1, pauses⟩ = some (result, ⟨n, pauses⟩)) ∨
    (¬o.Settles outcomes n ∧ ∃ rest, left = rest + 1 ∧
      observe outcomes (attemptFrom attempt label (o.map Duration.Exact.delay) n left)
        ⟨n - 1, pauses⟩ =
      observe outcomes (attemptFrom attempt label (o.map Duration.Exact.delay) (n + 1) rest)
        ⟨n, pauses ++ [(n, Duration.Exact.delay (o.pauseAfter n))]⟩) := by
  by_cases hsettles : o.Settles outcomes n
  · obtain ⟨result, hresult, hrun⟩ := observe_attemptFrom_settled outcomes label
      (o.map (Duration.Exact.delay (δ := δ))) hn hleft hsettles pauses
    exact Or.inl ⟨hsettles, result, hresult.of_map, hrun⟩
  · obtain ⟨rest, hrest, hrun⟩ := observe_attemptFrom_unsettled outcomes label
      (o.map (Duration.Exact.delay (δ := δ))) hn hleft hsettles pauses
    rw [o.delayAfter_map hn] at hrun
    exact Or.inr ⟨hsettles, rest, hrest, hrun⟩

/-- From the attempt with the number `n` on, the calls go on up to the first one that settles the
matter. The induction is on the attempts that are left. -/
theorem observe_attemptFrom {n left : Nat} (hn : 1 ≤ n) (hleft : n + left = o.attempts)
    (pauses : List (Nat × δ)) :
    ∃ k result, IsLeast { i | n ≤ i ∧ o.Settles outcomes i } k ∧
      o.Concludes label k (outcomes k) result ∧
      observe outcomes (attemptFrom attempt label (o.map Duration.Exact.delay) n left)
        ⟨n - 1, pauses⟩ = some (result, ⟨k, pauses ++ pausesBetween o n k⟩) := by
  induction left generalizing n pauses with
  | zero =>
    obtain ⟨hsettles, result, hresult, hrun⟩ | ⟨-, rest, hrest, -⟩ :=
      observe_attemptFrom_step outcomes label o hn hleft pauses
    · refine ⟨n, result, ⟨⟨le_refl n, hsettles⟩, fun i hi => hi.1⟩, hresult, ?_⟩
      rw [hrun, pausesBetween_self, List.append_nil]
    · omega
  | succ left ih =>
    obtain ⟨hsettles, result, hresult, hrun⟩ | ⟨hgoes, rest, hrest, hrun⟩ :=
      observe_attemptFrom_step outcomes label o hn hleft pauses
    · refine ⟨n, result, ⟨⟨le_refl n, hsettles⟩, fun i hi => hi.1⟩, hresult, ?_⟩
      rw [hrun, pausesBetween_self, List.append_nil]
    · cases hrest
      obtain ⟨k, result, ⟨⟨hk, hsettles⟩, hleast⟩, hresult, hnext⟩ :=
        ih (Nat.le_add_left 1 n) (by omega)
          (pauses ++ [(n, Duration.Exact.delay (o.pauseAfter n))])
      refine ⟨k, result, ⟨⟨by omega, hsettles⟩, ?_⟩, hresult, ?_⟩
      · rintro i ⟨hi, hsettled⟩
        apply hleast
        constructor
        · rcases Nat.eq_or_lt_of_le hi with rfl | hlt
          · exact absurd hsettled hgoes
          · exact hlt
        · exact hsettled
      · rw [List.append_assoc] at hnext
        rw [hrun, pausesBetween_cons o hk]
        exact hnext

/-- The calls go on up to the first one that settles the matter, with the scheduled pauses between
them; its value is the result, or its failure with one more note. No pause is longer than the
longest one allowed, and pauses that are to grow do not shrink. -/
theorem retry_ends_at_first_settled [IsStrictOrderedRing R] :
    ∃ k result, IsLeast { i | 1 ≤ i ∧ o.Settles outcomes i } k ∧
      observe outcomes (retry attempt label (o.map (Duration.Exact.delay (δ := δ)))) ⟨0, []⟩ =
        some (result, ⟨k, (List.range' 1 (k - 1)).map fun i =>
          (i, Duration.Exact.delay (o.pauseAfter i))⟩) ∧
      o.Concludes label k (outcomes k) result ∧
      (∀ i, o.pauseAfter i ≤ o.maxDelay) ∧
      (0 ≤ o.baseDelay → 1 ≤ o.backoffFactor → Monotone o.pauseAfter) := by
  have hattempts : 1 + (o.attempts - 1) = o.attempts := by
    rw [RetryOptions.attempts]
    omega
  obtain ⟨k, result, hk, hresult, hrun⟩ :=
    observe_attemptFrom (δ := δ) outcomes label o (le_refl 1) hattempts []
  exact ⟨k, result, hk, hrun, hresult, o.pauseAfter_le, o.monotone_pauseAfter⟩

end

def limited : Failure :=
  { cause := .remote .rateLimited "slow down" (.int 429) .null }

/-- Three calls at most, with pauses of a half and of one. -/
def patient : RetryOptions Rat :=
  { maxAttempts := 3
    baseDelay := 1 / 2
    backoffFactor := 3
    maxDelay := 1
    retryable := ["rate-limited"] }

def thirdTime (i : Nat) : Except Failure Nat :=
  if i < 3 then .error limited else .ok i

theorem isLeast_thirdTime : IsLeast { i | 1 ≤ i ∧ patient.Settles thirdTime i } 3 := by
  have hlimited : ¬patient.Rejects limited := by
    rintro ⟨-, h⟩
    apply h "rate-limited" (List.mem_singleton_self _)
    exact Or.inr (Or.inr ⟨by decide, List.infix_rfl⟩)
  constructor
  · exact ⟨by decide, Or.inl rfl⟩
  · rintro i ⟨-, h⟩
    by_contra hi
    have hout : thirdTime i = .error limited := if_pos (Nat.lt_of_not_le hi)
    rcases h with h | ⟨a, h⟩ | ⟨f, h, hf⟩
    · exact hi (le_of_eq h.symm)
    · rw [hout] at h
      cases h
    · rw [hout] at h
      cases h
      exact hlimited hf

theorem retry_thirdTime :
    (0 ≤ patient.baseDelay ∧ 1 ≤ patient.backoffFactor) ∧
      observe thirdTime (retry attempt "ping" (patient.map id)) ⟨0, []⟩ =
        some (.ok 3, ⟨3, [(1, 1 / 2), (2, 1)]⟩) ∧
      Monotone patient.pauseAfter := by
  have hbase : 0 ≤ patient.baseDelay := by norm_num [patient]
  have hfactor : 1 ≤ patient.backoffFactor := by norm_num [patient]
  obtain ⟨k, result, hk, hrun, hresult, -, hgrow⟩ :=
    retry_ends_at_first_settled (R := Rat) (δ := Rat) thirdTime "ping" patient
  obtain rfl := hk.unique isLeast_thirdTime
  cases hresult
  refine ⟨⟨hbase, hfactor⟩, hrun.trans ?_, hgrow hbase hfactor⟩
  norm_num [List.range', RetryOptions.pauseAfter, patient, Duration.Exact.delay]

end Trial

end MarketingFlow
