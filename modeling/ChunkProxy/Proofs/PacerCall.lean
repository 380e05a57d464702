import ChunkProxy.Retry.Pacer
/-!
# How many attempts a paced call makes

A paced call runs its operation, classifies the outcome, and runs it again
while the outcome is retryable and the retry budget `maxRetries` lasts.  The
attempts are run one after another, each on the state the previous one left
(`attemptTrace`), so their classifications form one sequence.

`StoppedAt budget retryable n` says that attempt `n` is where such a loop
stops: every earlier outcome was retryable, and attempt `n` was not, or was
the last the budget allows.  Exactly one `n` satisfies it
(`StoppedAt.unique`): the first attempt that is not retryable, or the budget,
whichever comes first.

The warning logged before a retry counts the attempts the policy allows,
`maxRetries + 1`, in a 64-bit word.  For the largest budget, `2^64 - 1`, that
count leaves the word and the first retry faults (`Overflows`).  The main
statement, `call_stops_or_overflows`: a call faults exactly then; otherwise it
stops at the attempt `StoppedAt` names, returns that attempt's outcome and
state, and adds one to the retry counter per retry.
-/

namespace ChunkProxy.Pacer

set_option autoImplicit false

variable {α σ : Type}

/-- The outcome of attempt `start + i`, and the state after it, when attempts are run
one after another from attempt `start` in state `s`. -/
def attemptTrace (run : σ → Nat → α × σ) : Nat → σ → Nat → α × σ
  | start, s, 0 => run s start
  | start, s, i + 1 => attemptTrace run (start + 1) (run s start).2 i

/-- A loop allowed `budget` retries that stops after attempt `n`: every earlier outcome
was retryable, and attempt `n` was not, or was the last the budget allows. -/
structure StoppedAt (budget : Nat) (retryable : Nat → Bool) (n : Nat) : Prop where
  within : n ≤ budget
  retried : ∀ i < n, retryable i = true
  stops : retryable n = false ∨ n = budget

/-- A call faults when its first outcome is retryable and the policy allows a retry,
but the count of attempts the policy allows leaves the 64-bit word. -/
def Overflows (policy : RetryPolicy) (firstRetryable : Bool) : Prop :=
  0 < policy.maxRetries ∧ wordBound ≤ policy.maxRetries + 1 ∧ firstRetryable = true

/-- The stopping attempt is unique: an attempt before another stopping attempt was
retried, hence retryable and within the budget, so it cannot stop the loop. -/
theorem StoppedAt.unique {budget n m : Nat} {retryable : Nat → Bool}
    (first : StoppedAt budget retryable n) (second : StoppedAt budget retryable m) : n = m := by
  rcases Nat.lt_trichotomy n m with before | same | after
  · have again := second.retried n before
    rcases first.stops with stop | last
    · rw [stop] at again
      cases again
    · have := second.within
      omega
  · exact same
  · have again := first.retried m after
    rcases second.stops with stop | last
    · rw [stop] at again
      cases again
    · have := first.within
      omega

/-- A loop that stops at its first attempt. -/
theorem stoppedAt_zero {budget : Nat} {retryable : Nat → Bool}
    (stops : retryable 0 = false ∨ 0 = budget) : StoppedAt budget retryable 0 where
  within := Nat.zero_le budget
  retried := fun _ below => absurd below (Nat.not_lt_zero _)
  stops := stops

/-- A loop whose first attempt is retried stops one attempt later than the loop over
the attempts after it, with one retry fewer. -/
theorem stoppedAt_succ {budget n : Nat} {retryable : Nat → Bool} (first : retryable 0 = true)
    (rest : StoppedAt budget (fun i => retryable (i + 1)) n) :
    StoppedAt (budget + 1) retryable (n + 1) where
  within := Nat.succ_le_succ rest.within
  retried := by
    intro i below
    cases i with
    | zero => exact first
    | succ i => exact rest.retried i (Nat.lt_of_succ_lt_succ below)
  stops := by
    rcases rest.stops with stop | last
    · exact Or.inl stop
    · exact Or.inr (congrArg (· + 1) last)

@[simp] theorem adjust_policy (p : Pacer) (retryable : Bool) : (p.adjust retryable).policy = p.policy := by
  unfold adjust
  split <;> rfl

@[simp] theorem adjust_retries (p : Pacer) (retryable : Bool) :
    (p.adjust retryable).retries = p.retries := by
  unfold adjust
  split <;> rfl

/-! ## One attempt -/

section Call

variable (run : σ → Nat → α × σ) (retryable : α → Bool)

/-- A call that does not retry after an attempt, and whose warning on giving up (if
any) counts within its word, returns that attempt's outcome and state. -/
theorem callFrom_give_up (fuel attempt : Nat) {p : Pacer} {s : σ}
    (stop : fuel = 0 ∨ p.policy.shouldRetry attempt (retryable (run s attempt).1) = false)
    (counted : retryable (run s attempt).1 = false ∨ attempt + 1 < wordBound) :
    callFrom run retryable fuel attempt p s =
      .ok (⟨(run s attempt).1, attempt + 1, (run s attempt).2⟩, p.adjust (retryable (run s attempt).1)) := by
  have quiet : (retryable (run s attempt).1 && decide (wordBound ≤ attempt + 1)) = false := by
    rcases counted with fine | fits
    · simp [fine]
    · simp only [Bool.and_eq_false_iff, decide_eq_false_iff_not]
      exact Or.inr (by omega)
  rw [callFrom]
  generalize run s attempt = outcome at stop quiet ⊢
  obtain ⟨a, s'⟩ := outcome
  rcases stop with rfl | noRetry
  · simp only [ge_iff_le, quiet]
    rfl
  · cases fuel with
    | zero => simp only [ge_iff_le, quiet]; rfl
    | succ fuel => simp only [adjust_policy, noRetry, ge_iff_le, quiet]; rfl

/-- A call that retries after an attempt faults when the count of allowed attempts
leaves its word, and otherwise runs the next attempt with one retry counted. -/
theorem callFrom_retry (fuel : Nat) {attempt : Nat} {p : Pacer} {s : σ}
    (retry : p.policy.shouldRetry attempt (retryable (run s attempt).1) = true) :
    callFrom run retryable (fuel + 1) attempt p s =
      if wordBound ≤ p.policy.maxRetries + 1 then .error Fault.addOverflow
      else callFrom run retryable fuel (attempt + 1)
        { p.adjust (retryable (run s attempt).1) with retries := p.retries + 1 } (run s attempt).2 := by
  rw [callFrom]
  generalize run s attempt = outcome at retry ⊢
  obtain ⟨a, s'⟩ := outcome
  simp only [adjust_policy, retry, adjust_retries, ge_iff_le, if_true]

/-! ## Every call -/

/-- While the count of allowed attempts fits its word, the attempts from `attempt`
on, with `fuel` retries left of the budget, stop where `StoppedAt` says: the call
returns that attempt's outcome and state and counts one retry per retry. -/
theorem callFrom_stops :
    ∀ (fuel attempt : Nat) (p : Pacer) (s : σ), attempt + fuel = p.policy.maxRetries →
      p.policy.maxRetries + 1 < wordBound →
      ∃ n q, StoppedAt fuel (fun i => retryable (attemptTrace run attempt s i).1) n ∧
        callFrom run retryable fuel attempt p s =
          .ok (⟨(attemptTrace run attempt s n).1, attempt + n + 1, (attemptTrace run attempt s n).2⟩, q) ∧
        q.retries = p.retries + UInt64.ofNat n ∧ q.policy = p.policy
  | 0, attempt, p, s, budget, fits => by
    -- the last attempt the budget allows: the call gives up after it
    have given := callFrom_give_up run retryable 0 attempt (p := p) (s := s) (Or.inl rfl)
      (Or.inr (by omega))
    refine ⟨0, p.adjust (retryable (run s attempt).1), stoppedAt_zero (Or.inr rfl), ?_, ?_, ?_⟩
    · rw [given]
      rfl
    · simp
    · simp
  | fuel + 1, attempt, p, s, budget, fits => by
    have allowed : attempt < p.policy.maxRetries := by omega
    cases first : retryable (run s attempt).1 with
    | false =>
      -- a final outcome: the call returns it at once
      have noRetry : p.policy.shouldRetry attempt (retryable (run s attempt).1) = false := by
        simp [RetryPolicy.shouldRetry, first]
      have given := callFrom_give_up run retryable (fuel + 1) attempt (Or.inr noRetry) (Or.inl first)
      refine ⟨0, p.adjust false, stoppedAt_zero (Or.inl first), ?_, by simp, by simp⟩
      rw [given, first]
      rfl
    | true =>
      -- a retryable outcome within the budget: the rest of the call starts one attempt later
      have retry : p.policy.shouldRetry attempt (retryable (run s attempt).1) = true := by
        simp [RetryPolicy.shouldRetry, first, allowed]
      have next := callFrom_retry run retryable fuel retry
      rw [if_neg (by omega), first] at next
      obtain ⟨n, q, stopped, result, counted, kept⟩ :=
        callFrom_stops fuel (attempt + 1) { p.adjust true with retries := p.retries + 1 } (run s attempt).2
          (by simp; omega) (by simpa using fits)
      refine ⟨n + 1, q, stoppedAt_succ first stopped, ?_, ?_, by simpa using kept⟩
      · rw [next, result]
        simp only [attemptTrace, Nat.add_right_comm attempt 1 n, Nat.add_assoc attempt n 1]
      · rw [counted, UInt64.ofNat_add, UInt64.ofNat_one, UInt64.add_assoc, UInt64.add_comm 1]

/-- What a call that returns did after its first attempt: it gave up, its pacer adjusted by
the outcome, or it counted a retry and the rest of the call returned. -/
theorem callFrom_ok_cases {fuel attempt : Nat} {p : Pacer} {s : σ} {c : Called α σ} {q : Pacer}
    (called : callFrom run retryable fuel attempt p s = .ok (c, q)) :
    q = p.adjust (retryable (run s attempt).1) ∨
      ∃ rest, fuel = rest + 1 ∧ callFrom run retryable rest (attempt + 1)
        { p.adjust (retryable (run s attempt).1) with retries := p.retries + 1 } (run s attempt).2 = .ok (c, q) := by
  rw [callFrom] at called
  generalize run s attempt = outcome at called ⊢
  obtain ⟨a, s'⟩ := outcome
  cases fuel with
  | zero =>
    dsimp only at called ⊢
    split at called
    · cases called
    · cases called
      exact .inl rfl
  | succ rest =>
    dsimp only at called ⊢
    split at called
    · split at called
      · cases called
      · rw [adjust_retries] at called
        exact .inr ⟨rest, rfl, called⟩
    · split at called
      · cases called
      · cases called
        exact .inl rfl

/-- A call that returns leaves the policy as it was: attempts change only the spacing and
the retry counter. -/
theorem callFrom_policy (fuel : Nat) :
    ∀ (attempt : Nat) (p : Pacer) (s : σ) (c : Called α σ) (q : Pacer),
      callFrom run retryable fuel attempt p s = .ok (c, q) → q.policy = p.policy := by
  induction fuel with
  | zero =>
    intro attempt p s c q called
    rcases callFrom_ok_cases run retryable called with rfl | ⟨rest, none_left, -⟩
    · exact adjust_policy _ _
    · cases none_left
  | succ fuel ih =>
    intro attempt p s c q called
    rcases callFrom_ok_cases run retryable called with rfl | ⟨rest, same, later⟩
    · exact adjust_policy _ _
    · cases same
      rw [ih _ _ _ _ _ later, adjust_policy]

/-- While the count of allowed attempts fits its word, a call returns. -/
theorem call_ok (p : Pacer) (s : σ) (fits : p.policy.maxRetries + 1 < wordBound) :
    ∃ c q, p.call run retryable s = .ok (c, q) := by
  obtain ⟨n, q, -, result, -, -⟩ := callFrom_stops run retryable p.policy.maxRetries 0 p s (Nat.zero_add _) fits
  exact ⟨_, q, result⟩

/-- What a call returns depends on its pacer's policy only: the spacing and the retries
counted so far change the pacer it leaves, never the attempts it makes. -/
theorem call_called_eq {p p' : Pacer} {s : σ} (same : p'.policy = p.policy)
    (fits : p.policy.maxRetries + 1 < wordBound) {c c' : Called α σ} {q q' : Pacer}
    (called : p.call run retryable s = .ok (c, q)) (called' : p'.call run retryable s = .ok (c', q')) :
    c' = c := by
  obtain ⟨n, r, stops, result, -, -⟩ :=
    callFrom_stops run retryable p.policy.maxRetries 0 p s (Nat.zero_add _) fits
  obtain ⟨n', r', stops', result', -, -⟩ :=
    callFrom_stops run retryable p'.policy.maxRetries 0 p' s (Nat.zero_add _) (by rw [same]; exact fits)
  -- both calls stop at the attempt the budget and the outcomes name
  rw [same] at stops'
  obtain rfl := stops.unique stops'
  unfold call at called called'
  rw [result] at called
  rw [result'] at called'
  cases called
  cases called'
  rfl

/-- Every call either faults at its first retry, exactly when the count of allowed
attempts leaves its word, or stops at the attempt `StoppedAt` names: the first whose
outcome is not retryable, or the last the budget allows.  It then returns that
attempt's outcome and state, and the retry counter grows by one per retry. -/
theorem call_stops_or_overflows (p : Pacer) (s : σ) :
    (Overflows p.policy (retryable (attemptTrace run 0 s 0).1) →
      p.call run retryable s = .error Fault.addOverflow) ∧
    (¬ Overflows p.policy (retryable (attemptTrace run 0 s 0).1) →
      ∃ n q, StoppedAt p.policy.maxRetries (fun i => retryable (attemptTrace run 0 s i).1) n ∧
        p.call run retryable s =
          .ok (⟨(attemptTrace run 0 s n).1, n + 1, (attemptTrace run 0 s n).2⟩, q) ∧
        q.retries = p.retries + UInt64.ofNat n ∧ q.policy = p.policy) := by
  have wide : 1 < wordBound := by decide
  constructor
  · rintro ⟨allowed, leaves, first⟩
    obtain ⟨budget, more⟩ : ∃ budget, p.policy.maxRetries = budget + 1 :=
      ⟨p.policy.maxRetries - 1, by omega⟩
    have retry : p.policy.shouldRetry 0 (retryable (run s 0).1) = true := by
      simp only [attemptTrace] at first
      simp [RetryPolicy.shouldRetry, first, allowed]
    unfold call
    rw [more, callFrom_retry run retryable budget retry, if_pos (by omega)]
  · intro fine
    by_cases fits : p.policy.maxRetries + 1 < wordBound
    · obtain ⟨n, q, stopped, result, counted, kept⟩ :=
        callFrom_stops run retryable p.policy.maxRetries 0 p s (Nat.zero_add _) fits
      refine ⟨n, q, stopped, ?_, counted, kept⟩
      rw [call, result, Nat.zero_add]
    · -- the count leaves the word, so the first outcome is final
      have allowed : 0 < p.policy.maxRetries := by omega
      have final : retryable (run s 0).1 = false := by
        cases first : retryable (run s 0).1 with
        | false => rfl
        | true => exact absurd ⟨allowed, by omega, first⟩ fine
      obtain ⟨budget, more⟩ : ∃ budget, p.policy.maxRetries = budget + 1 :=
        ⟨p.policy.maxRetries - 1, by omega⟩
      have noRetry : p.policy.shouldRetry 0 (retryable (run s 0).1) = false := by
        simp [RetryPolicy.shouldRetry, final]
      have given := callFrom_give_up run retryable (budget + 1) 0 (Or.inr noRetry) (Or.inl final)
      refine ⟨0, p.adjust false, stoppedAt_zero (Or.inl final), ?_, by simp, by simp⟩
      rw [call, more, given, final]
      rfl

/-- With the largest budget a 64-bit word allows, a call whose first outcome is
retryable faults at its first retry. -/
theorem call_overflows_at_word_max :
    (Pacer.make (RetryPolicy.withSleep wordMax nanosPerMilli (8 * nanosPerMilli))).call
      (fun (u : Unit) n => ([true].getD n false, u)) id () = .error Fault.addOverflow :=
  (call_stops_or_overflows _ _ _ _).1 ⟨by decide, by decide, rfl⟩

end Call

end ChunkProxy.Pacer
