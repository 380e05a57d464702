import ChunkProxy.Proofs.PacerCall
import Mathlib.Logic.Relation
/-!
# The pacer's spacing

A pacer starts at the minimum spacing of its policy.  When an attempt ends, a retryable
outcome doubles the spacing, up to the maximum, and any other outcome takes a quarter
off, rounding down, but not below the minimum.  `RetryPolicy.make` and
`RetryPolicy.withSleep` build policies whose window is not empty, `minSleep ≤ maxSleep`.

`Moves p q` says what one attempt does to a pacer: its outcome adjusts the spacing, and a
retry is counted.  A call moves its pacer by nothing else (`callFrom_moves`), and neither
do calls that share it behind its lock (`SharedPacer.run_moves`), so every pacer a run
reaches from a fresh one is `Reachable`.  Each move keeps the spacing within the window
(`Moves.inWindow`); from that window follow the spacing law (`adjust_true_sleep`,
`adjust_false_sleep`), the bound on the products the law forms (`spacing_products_fit`),
the spacing after retryable outcomes in a row (`widen_sleep`), and the return to the
minimum after enough other outcomes (`decay_sleep`).

Calls that share a pacer reach its lock in some order, asking for a start or ending an
attempt (`LockStep`).  Every start granted lies at or after the next start the lock
holds, which only moves on; so each start is at least an earlier one plus the spacing in
force when that one was granted (`grants_spaced`).

The backoff a policy reports for `a` failures in a row doubles the minimum at most 31
times (`backoff`): it agrees with doubling `a` times as long as `a ≤ 31`, or once the
minimum doubled 31 times reaches the maximum (`backoff_eq_doubled`), and not in a wider
window (`backoff_stops_doubling_at_31`).
-/

namespace ChunkProxy

set_option autoImplicit false

namespace RetryPolicy

/-- `withSleep` raises the maximum to the minimum, so its window is not empty. -/
theorem withSleep_window (maxRetries minSleep maxSleep : Nat) :
    (withSleep maxRetries minSleep maxSleep).minSleep ≤ (withSleep maxRetries minSleep maxSleep).maxSleep :=
  Nat.le_max_right maxSleep minSleep

/-- The default window of 10 ms to 2 s is one that `withSleep` builds. -/
theorem make_eq_withSleep (maxRetries : Nat) :
    make maxRetries = withSleep maxRetries (10 * nanosPerMilli) (2000 * nanosPerMilli) := by
  simp [make, withSleep, nanosPerMilli]

/-- Bounds of at most `2^64 - 1` milliseconds give a maximum of at most that many. -/
theorem withSleep_millis_bounded (maxRetries : Nat) {lo hi : Nat} (loWord : lo ≤ wordMax) (hiWord : hi ≤ wordMax) :
    (withSleep maxRetries (lo * nanosPerMilli) (hi * nanosPerMilli)).maxSleep ≤ wordMax * nanosPerMilli := by
  simp only [withSleep, nanosPerMilli]
  omega

/-! ## Backoff -/

/-- The backoff grows with the number of failures. -/
theorem backoff_mono (policy : RetryPolicy) {a b : Nat} (le : a ≤ b) : policy.backoff a ≤ policy.backoff b := by
  unfold backoff
  have doubled : Nat.pow 2 (min a 31) ≤ Nat.pow 2 (min b 31) :=
    Nat.pow_le_pow_right (by decide) (by omega)
  have := Nat.mul_le_mul_left policy.minSleep doubled
  omega

/-- The backoff is the minimum doubled `a` times, up to the maximum, as long as `a ≤ 31`, or
once the minimum doubled 31 times reaches the maximum. -/
theorem backoff_eq_doubled (policy : RetryPolicy) {a : Nat}
    (reaches : a ≤ 31 ∨ policy.maxSleep ≤ policy.minSleep * Nat.pow 2 31) :
    policy.backoff a = min policy.maxSleep (policy.minSleep * Nat.pow 2 a) := by
  unfold backoff
  by_cases few : a ≤ 31
  · rw [Nat.min_eq_left few, Nat.min_comm]
  · -- past 31 failures both sides are the maximum
    have saturated : policy.maxSleep ≤ policy.minSleep * Nat.pow 2 31 := reaches.resolve_left few
    have more : policy.minSleep * Nat.pow 2 31 ≤ policy.minSleep * Nat.pow 2 a :=
      Nat.mul_le_mul_left _ (Nat.pow_le_pow_right (by decide) (by omega))
    rw [Nat.min_eq_right (by omega : 31 ≤ a)]
    omega

end RetryPolicy

/-- The longest span a `Duration` holds, in nanoseconds: `2^64 - 1` seconds and a second less
a nanosecond.  A product of durations past it faults. -/
def durationMax : Nat := wordMax * 1000000000 + 999999999

namespace Pacer

/-! ## One attempt -/

/-- The outcomes of attempts one after another, each adjusting the spacing. -/
def adjustAll (p : Pacer) (outcomes : List Bool) : Pacer := outcomes.foldl adjust p

@[simp] theorem adjustAll_nil (p : Pacer) : p.adjustAll [] = p := rfl

@[simp] theorem adjustAll_cons (p : Pacer) (b : Bool) (outcomes : List Bool) :
    p.adjustAll (b :: outcomes) = (p.adjust b).adjustAll outcomes := rfl

/-- The spacing lies within the window of the pacer's policy. -/
structure InWindow (p : Pacer) : Prop where
  above : p.policy.minSleep ≤ p.sleep
  below : p.sleep ≤ p.policy.maxSleep

/-- A retryable outcome doubles a spacing that is not below the minimum, up to the maximum. -/
theorem adjust_true_sleep {p : Pacer} (above : p.policy.minSleep ≤ p.sleep) :
    (p.adjust true).sleep = min p.policy.maxSleep (2 * p.sleep) := by
  simp only [adjust, if_true]
  omega

/-- Any other outcome takes a quarter off the spacing, rounding down, but not below the minimum. -/
theorem adjust_false_sleep (p : Pacer) : (p.adjust false).sleep = max p.policy.minSleep (3 * p.sleep / 4) := by
  simp only [adjust, Bool.false_eq_true, if_false]
  omega

theorem InWindow.adjust {p : Pacer} (inside : p.InWindow) (retryable : Bool) : (p.adjust retryable).InWindow := by
  have above := inside.above
  have below := inside.below
  cases retryable with
  | true => exact ⟨by rw [adjust_true_sleep above, adjust_policy]; omega, by rw [adjust_true_sleep above, adjust_policy]; omega⟩
  | false => exact ⟨by rw [adjust_false_sleep, adjust_policy]; omega, by rw [adjust_false_sleep, adjust_policy]; omega⟩

/-- Within a window whose maximum is at most `2^64 - 1` milliseconds, the spacing doubled and
tripled, the products the spacing law forms, are spans a `Duration` holds. -/
theorem spacing_products_fit {p : Pacer} (inside : p.InWindow) (bounded : p.policy.maxSleep ≤ wordMax * nanosPerMilli) :
    p.sleep * 2 ≤ durationMax ∧ p.sleep * 3 ≤ durationMax := by
  have below := inside.below
  have longest : durationMax = wordMax * 1000000000 + 999999999 := rfl
  simp only [nanosPerMilli] at bounded
  omega

/-! ## Runs -/

/-- What one attempt does to a pacer: its outcome adjusts the spacing, and a retry is counted. -/
inductive Moves : Pacer → Pacer → Prop
  | adjust (p : Pacer) (retryable : Bool) : Moves p (p.adjust retryable)
  | retry (p : Pacer) : Moves p { p with retries := p.retries + 1 }

/-- The pacers a run reaches from a fresh one under `policy`. -/
def Reachable (policy : RetryPolicy) (p : Pacer) : Prop := Relation.ReflTransGen Moves (make policy) p

theorem Moves.policy_eq {p q : Pacer} (move : Moves p q) : q.policy = p.policy := by
  cases move with
  | adjust retryable => exact adjust_policy p retryable
  | retry => rfl

theorem Moves.inWindow {p q : Pacer} (move : Moves p q) (inside : p.InWindow) : q.InWindow := by
  cases move with
  | adjust retryable => exact inside.adjust retryable
  | retry => exact ⟨inside.above, inside.below⟩

theorem Reachable.policy_eq {policy : RetryPolicy} {p : Pacer} (reach : Reachable policy p) : p.policy = policy := by
  induction reach with
  | refl => rfl
  | tail _ move ih => rw [move.policy_eq, ih]

/-- Every reachable pacer keeps its spacing within a window that is not empty. -/
theorem Reachable.inWindow {policy : RetryPolicy} (window : policy.minSleep ≤ policy.maxSleep) {p : Pacer}
    (reach : Reachable policy p) : p.InWindow := by
  induction reach with
  | refl => exact ⟨Nat.le_refl _, window⟩
  | tail _ move ih => exact move.inWindow ih

section Call

variable {α σ : Type} (run : σ → Nat → α × σ) (retryable : α → Bool)

/-- A call moves its pacer by its attempts' outcomes and its counted retries only. -/
theorem callFrom_moves (fuel : Nat) :
    ∀ (attempt : Nat) (p : Pacer) (s : σ) (c : Called α σ) (q : Pacer),
      callFrom run retryable fuel attempt p s = .ok (c, q) → Relation.ReflTransGen Moves p q := by
  induction fuel with
  | zero =>
    intro attempt p s c q called
    rcases callFrom_ok_cases run retryable called with rfl | ⟨rest, none_left, -⟩
    · exact .single (.adjust p _)
    · cases none_left
  | succ fuel ih =>
    intro attempt p s c q called
    rcases callFrom_ok_cases run retryable called with rfl | ⟨rest, same, later⟩
    · exact .single (.adjust p _)
    · -- a retry: the outcome adjusts, the retry is counted, and the rest of the call follows
      cases same
      rw [← adjust_retries p (retryable (run s attempt).1)] at later
      exact .head (.adjust p _) (.head (.retry _) (ih _ _ _ _ _ later))

/-- A call on a reachable pacer leaves it reachable. -/
theorem Reachable.call {policy : RetryPolicy} {p : Pacer} (reach : Reachable policy p) {s : σ} {c : Called α σ}
    {q : Pacer} (called : p.call run retryable s = .ok (c, q)) : Reachable policy q :=
  reach.trans (callFrom_moves run retryable _ _ _ _ _ _ called)

end Call

/-! ## Retryable outcomes in a row, and the way back -/

/-- Retryable outcomes in a row double a spacing that is the minimum doubled `i` times, up
to the maximum. -/
theorem widen_sleep : ∀ (j : Nat) (p : Pacer) (i : Nat), p.InWindow →
    p.sleep = min p.policy.maxSleep (p.policy.minSleep * Nat.pow 2 i) →
    (p.adjustAll (List.replicate j true)).sleep = min p.policy.maxSleep (p.policy.minSleep * Nat.pow 2 (i + j))
  | 0, p, i, _, at_i => at_i
  | j + 1, p, i, inside, at_i => by
    have next : (p.adjust true).sleep =
        min (p.adjust true).policy.maxSleep ((p.adjust true).policy.minSleep * Nat.pow 2 (i + 1)) := by
      have window := Nat.le_trans inside.above inside.below
      have doubled : Nat.pow 2 (i + 1) = Nat.pow 2 i * 2 := rfl
      rw [adjust_true_sleep inside.above, adjust_policy, at_i, doubled, ← Nat.mul_assoc]
      omega
    rw [List.replicate_succ, adjustAll_cons, widen_sleep j (p.adjust true) (i + 1) (inside.adjust true) next,
      adjust_policy, Nat.add_assoc, Nat.add_comm 1 j]

/-- From a spacing within the window, as many outcomes that are not retryable as the
spacing's excess over the minimum bring it back to exactly the minimum. -/
theorem decay_sleep : ∀ (k : Nat) (p : Pacer), p.InWindow → p.sleep - p.policy.minSleep ≤ k →
    (p.adjustAll (List.replicate k false)).sleep = p.policy.minSleep
  | 0, p, inside, done => by
    have := inside.above
    simp only [List.replicate_zero, adjustAll_nil]
    omega
  | k + 1, p, inside, excess => by
    -- each such outcome lowers a spacing above the minimum by at least one nanosecond
    have lower : (p.adjust false).sleep - (p.adjust false).policy.minSleep ≤ k := by
      have := inside.above
      rw [adjust_false_sleep, adjust_policy]
      omega
    rw [List.replicate_succ, adjustAll_cons, decay_sleep k (p.adjust false) (inside.adjust false) lower, adjust_policy]

/-- Retryable outcomes in a row from a fresh pacer leave the minimum doubled as many times, up
to the maximum. -/
theorem widened_fresh {policy : RetryPolicy} (window : policy.minSleep ≤ policy.maxSleep) (j : Nat) :
    ((make policy).adjustAll (List.replicate j true)).sleep = min policy.maxSleep (policy.minSleep * Nat.pow 2 j) := by
  have fresh : (make policy).sleep = min policy.maxSleep (policy.minSleep * Nat.pow 2 0) := by
    show policy.minSleep = min policy.maxSleep (policy.minSleep * 1)
    omega
  have widened := widen_sleep j (make policy) 0 ⟨Nat.le_refl _, window⟩ fresh
  rwa [Nat.zero_add] at widened

end Pacer

/-! ## Calls sharing a pacer -/

/-- What reaches a shared pacer's lock: a call asking at some instant for its start, or an
attempt ending with its outcome. -/
inductive LockStep where
  | begin (now : Nat)
  | finish (retryable : Bool)
  deriving DecidableEq, Repr

namespace SharedPacer

/-- Takes one step under the lock. -/
def step (s : SharedPacer) : LockStep → SharedPacer
  | .begin now => (s.beginCall now).2
  | .finish retryable => s.endCall retryable

/-- Takes steps under the lock, in the order they reached it. -/
def run (s : SharedPacer) (steps : List LockStep) : SharedPacer := steps.foldl step s

/-- A start granted: when the call starts, and the spacing in force when it was granted. -/
structure Grant where
  start : Nat
  spacing : Nat
  deriving DecidableEq, Repr

/-- The starts granted along the steps, in lock order. -/
def grants : SharedPacer → List LockStep → List Grant
  | _, [] => []
  | s, .begin now :: rest => ⟨now + (s.beginCall now).1, s.pacer.sleep⟩ :: grants (s.beginCall now).2 rest
  | s, .finish retryable :: rest => grants (s.endCall retryable) rest

theorem beginCall_start (s : SharedPacer) (now : Nat) : now + (s.beginCall now).1 = max s.nextCall now := by
  simp only [beginCall]
  omega

theorem beginCall_nextCall (s : SharedPacer) (now : Nat) :
    (s.beginCall now).2.nextCall = max s.nextCall now + s.pacer.sleep := rfl

/-- Every start granted lies at or after the next start the lock holds: that start only
moves on, by a grant to after the start granted. -/
theorem nextCall_le_grants : ∀ (steps : List LockStep) (s : SharedPacer), ∀ g ∈ grants s steps, s.nextCall ≤ g.start
  | [], _, _, none_granted => absurd none_granted List.not_mem_nil
  | .begin now :: rest, s, g, granted => by
    simp only [grants, List.mem_cons] at granted
    rcases granted with rfl | later
    · rw [beginCall_start]
      exact Nat.le_max_left _ _
    · have := nextCall_le_grants rest _ g later
      rw [beginCall_nextCall] at this
      omega
  | .finish retryable :: rest, s, g, granted => nextCall_le_grants rest (s.endCall retryable) g granted

/-- In lock order, every start granted is at least each earlier start plus the spacing in
force when that earlier start was granted; in particular the starts never decrease. -/
theorem grants_spaced : ∀ (steps : List LockStep) (s : SharedPacer),
    (grants s steps).Pairwise fun g h => g.start + g.spacing ≤ h.start
  | [], _ => List.Pairwise.nil
  | .begin now :: rest, s => by
    rw [grants, List.pairwise_cons]
    refine ⟨fun h later => ?_, grants_spaced rest _⟩
    have := nextCall_le_grants rest _ h later
    rw [beginCall_nextCall, ← beginCall_start] at this
    exact this
  | .finish retryable :: rest, s => grants_spaced rest (s.endCall retryable)

/-- The lock moves the shared pacer by the attempts' outcomes only. -/
theorem run_moves : ∀ (steps : List LockStep) (s : SharedPacer), Relation.ReflTransGen Pacer.Moves s.pacer (s.run steps).pacer
  | [], _ => .refl
  | .begin now :: rest, s => run_moves rest (s.beginCall now).2
  | .finish retryable :: rest, s => .head (.adjust s.pacer retryable) (run_moves rest (s.endCall retryable))

end SharedPacer

namespace Pacer

/-- Under a policy whose window is not empty, as `RetryPolicy.make` and `RetryPolicy.withSleep`
build them: every pacer that calls reach from a fresh one, one call after another or sharing
it behind its lock, keeps its spacing within the window; the next outcome doubles the spacing,
up to the maximum, when it is retryable, and otherwise takes a quarter off, rounding down, but
not below the minimum; with bounds of at most `2^64 - 1` milliseconds the spacing doubled and
tripled are spans a `Duration` holds; and as many outcomes that are not retryable as the
spacing's excess over the minimum bring it back to exactly the minimum.  Retryable outcomes
in a row from a fresh pacer leave the minimum doubled as many times, up to the maximum.  Calls
sharing a pacer are granted starts, in lock order, each at least every earlier start plus the
spacing in force when that one was granted. -/
theorem spacing_stays_in_window {policy : RetryPolicy} (window : policy.minSleep ≤ policy.maxSleep) :
    (∀ p, Reachable policy p →
      (policy.minSleep ≤ p.sleep ∧ p.sleep ≤ policy.maxSleep) ∧
      (p.adjust true).sleep = min policy.maxSleep (2 * p.sleep) ∧
      (p.adjust false).sleep = max policy.minSleep (3 * p.sleep / 4) ∧
      (policy.maxSleep ≤ wordMax * nanosPerMilli → p.sleep * 2 ≤ durationMax ∧ p.sleep * 3 ≤ durationMax) ∧
      ∀ k, p.sleep - policy.minSleep ≤ k → (p.adjustAll (List.replicate k false)).sleep = policy.minSleep) ∧
    (∀ (α σ : Type) (p : Pacer) (run : σ → Nat → α × σ) (retryable : α → Bool) (s : σ) (c : Called α σ) (q : Pacer),
      Reachable policy p → p.call run retryable s = .ok (c, q) → Reachable policy q) ∧
    (∀ steps, Reachable policy ((SharedPacer.make policy).run steps).pacer) ∧
    (∀ j, ((make policy).adjustAll (List.replicate j true)).sleep = min policy.maxSleep (policy.minSleep * Nat.pow 2 j)) ∧
    (∀ s steps, (SharedPacer.grants s steps).Pairwise fun g h => g.start + g.spacing ≤ h.start) := by
  refine ⟨fun p reach => ?_, fun α σ p run retryable s c q reach called => reach.call run retryable called,
    fun steps => SharedPacer.run_moves steps (SharedPacer.make policy), widened_fresh window,
    fun s steps => SharedPacer.grants_spaced steps s⟩
  · have inside := reach.inWindow window
    have policy_eq := reach.policy_eq
    refine ⟨⟨policy_eq ▸ inside.above, policy_eq ▸ inside.below⟩, ?_, ?_, fun bounded => ?_, fun k excess => ?_⟩
    · rw [adjust_true_sleep inside.above, policy_eq]
    · rw [adjust_false_sleep, policy_eq]
    · exact spacing_products_fit inside (policy_eq ▸ bounded)
    · rw [decay_sleep k p inside (policy_eq ▸ excess), policy_eq]

/-- The window of 1 ms to 8 ms: three retryable outcomes in a row from a fresh pacer reach
the maximum, and as many other outcomes as the 7 000 000 nanoseconds above the minimum
bring it back there. -/
theorem fast_window_widens_and_decays :
    (RetryPolicy.withSleep 2 nanosPerMilli (8 * nanosPerMilli)).minSleep ≤
      (RetryPolicy.withSleep 2 nanosPerMilli (8 * nanosPerMilli)).maxSleep ∧
    ((make (.withSleep 2 nanosPerMilli (8 * nanosPerMilli))).adjustAll (List.replicate 3 true)).sleep =
      8 * nanosPerMilli ∧
    (((make (.withSleep 2 nanosPerMilli (8 * nanosPerMilli))).adjustAll (List.replicate 3 true)).adjustAll
      (List.replicate 7000000 false)).sleep = nanosPerMilli := by
  have window := RetryPolicy.withSleep_window 2 nanosPerMilli (8 * nanosPerMilli)
  have law := spacing_stays_in_window window
  have widened := law.2.2.2.1 3
  have reach : Reachable (.withSleep 2 nanosPerMilli (8 * nanosPerMilli))
      ((make (.withSleep 2 nanosPerMilli (8 * nanosPerMilli))).adjustAll (List.replicate 3 true)) :=
    .tail (.tail (.single (.adjust _ true)) (.adjust _ true)) (.adjust _ true)
  refine ⟨window, by rw [widened]; decide, ?_⟩
  rw [(law.1 _ reach).2.2.2.2 7000000 (by rw [widened]; decide)]
  rfl

end Pacer

namespace RetryPolicy

/-- The backoff a policy reports for `a` failures in a row never decreases as `a` grows.  As
long as `a ≤ 31`, or once the minimum doubled 31 times reaches the maximum, it is the minimum
doubled `a` times, up to the maximum: the spacing a fresh pacer holds after `a` retryable
outcomes in a row. -/
theorem backoff_tracks_widened_spacing {policy : RetryPolicy} (window : policy.minSleep ≤ policy.maxSleep) :
    (∀ a b, a ≤ b → policy.backoff a ≤ policy.backoff b) ∧
    ∀ a, (a ≤ 31 ∨ policy.maxSleep ≤ policy.minSleep * Nat.pow 2 31) →
      policy.backoff a = min policy.maxSleep (policy.minSleep * Nat.pow 2 a) ∧
      policy.backoff a = ((Pacer.make policy).adjustAll (List.replicate a true)).sleep := by
  refine ⟨fun _ _ le => backoff_mono policy le, fun a reaches => ?_⟩
  have doubled := backoff_eq_doubled policy reaches
  exact ⟨doubled, doubled.trans (Pacer.widened_fresh window a).symm⟩

/-- The default window of 10 ms to 2 s: the backoff after two failures is 40 ms. -/
theorem default_backoff_after_two_failures :
    (make 3).minSleep ≤ (make 3).maxSleep ∧ (make 3).backoff 2 = 40 * nanosPerMilli := by
  have window : (make 3).minSleep ≤ (make 3).maxSleep := by decide
  refine ⟨window, ?_⟩
  rw [((backoff_tracks_widened_spacing window).2 2 (.inl (by decide))).1]
  decide

/-- In the window of 1 ms to `2^40` ms, which a configuration may set, the backoff after 32
failures is the minimum doubled only 31 times; doubling it 32 times stays below the maximum,
and is the spacing a fresh pacer holds after 32 retryable outcomes in a row. -/
theorem backoff_stops_doubling_at_31 :
    (withSleep 0 nanosPerMilli (Nat.pow 2 40 * nanosPerMilli)).backoff 32 = Nat.pow 2 31 * nanosPerMilli ∧
    ((Pacer.make (withSleep 0 nanosPerMilli (Nat.pow 2 40 * nanosPerMilli))).adjustAll
      (List.replicate 32 true)).sleep = Nat.pow 2 32 * nanosPerMilli ∧
    (withSleep 0 nanosPerMilli (Nat.pow 2 40 * nanosPerMilli)).backoff 32 ≠
      min (withSleep 0 nanosPerMilli (Nat.pow 2 40 * nanosPerMilli)).maxSleep
        ((withSleep 0 nanosPerMilli (Nat.pow 2 40 * nanosPerMilli)).minSleep * Nat.pow 2 32) := by
  refine ⟨by decide, ?_, by decide⟩
  rw [Pacer.widened_fresh (withSleep_window _ _ _)]
  decide

end RetryPolicy

end ChunkProxy
