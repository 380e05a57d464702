import ChunkProxy.Text.Decimal
import ChunkProxy.Fault
/-!
# Pacing upstream calls

A retry policy bounds the retries after a first attempt and the spacing
between calls, `minSleep` to `maxSleep` nanoseconds.  A failed attempt is
tried again while it is retryable and the retry budget lasts; the backoff
after `k` failures is `minSleep · 2^min(k, 31)`, capped at `maxSleep`.

One pacer is shared by every call of a backend.  Its spacing starts at the
minimum; a retryable outcome doubles it (within the window), any other
outcome takes it down by a quarter (not below the minimum).  The pacer also
counts every retry it has issued, in a 64-bit word that wraps.

A call logs a warning before each retry, counting the attempts the policy
allows (`maxRetries + 1`), and one when it gives up on a retryable outcome,
counting the attempts made; both counts are 64-bit words, and a count that
leaves its word faults.

Calls running side by side share the pacer behind a lock (`SharedPacer`).  Before
an attempt a call is granted its start, the later of the present and the next
start, and the next start moves on by the spacing; the call waits until its
start.  `call` leaves these waits out: they delay attempts and change no outcome.
-/

namespace ChunkProxy

set_option autoImplicit false

/-- Nanoseconds in a millisecond. -/
def nanosPerMilli : Nat := 1000000

/-- Retry bounds: retries after the first attempt and the spacing window in nanoseconds. -/
structure RetryPolicy where
  maxRetries : Nat
  minSleep : Nat
  maxSleep : Nat
  deriving DecidableEq, Repr

namespace RetryPolicy

/-- A policy with the default window of 10 ms to 2 s. -/
def make (maxRetries : Nat) : RetryPolicy := ⟨maxRetries, 10 * nanosPerMilli, 2000 * nanosPerMilli⟩

/-- A policy with an explicit window; the maximum is raised to the minimum if below it. -/
def withSleep (maxRetries minSleep maxSleep : Nat) : RetryPolicy := ⟨maxRetries, minSleep, max maxSleep minSleep⟩

/-- The default policy: ten retries. -/
def default : RetryPolicy := make 10

/-- Whether attempt `attempt` (from zero) is followed by another. -/
def shouldRetry (p : RetryPolicy) (attempt : Nat) (retryable : Bool) : Bool :=
  retryable && attempt < p.maxRetries

/-- The backoff after `attempt` consecutive failures. -/
def backoff (p : RetryPolicy) (attempt : Nat) : Nat := min (p.minSleep * Nat.pow 2 (min attempt 31)) p.maxSleep

end RetryPolicy

/-- A pacer: its policy, the present spacing and the retries issued so far. -/
structure Pacer where
  policy : RetryPolicy
  sleep : Nat
  retries : UInt64 := 0
  deriving DecidableEq, Repr

namespace Pacer

/-- A fresh pacer at the minimum spacing. -/
def make (policy : RetryPolicy) : Pacer := { policy, sleep := policy.minSleep }

/-- The spacing after an outcome. -/
def adjust (p : Pacer) (retryable : Bool) : Pacer :=
  if retryable then { p with sleep := min (max (p.sleep * 2) p.policy.minSleep) p.policy.maxSleep }
  else { p with sleep := max (p.sleep * 3 / 4) p.policy.minSleep }

/-- What a call returned: the last outcome, the number of attempts, and the state
threaded through them. -/
structure Called (α σ : Type) where
  outcome : α
  attempts : Nat
  state : σ

/-- Runs attempts from `attempt` on with `fuel` more allowed. -/
def callFrom {α σ : Type} (run : σ → Nat → α × σ) (retryable : α → Bool) :
    Nat → Nat → Pacer → σ → Except Fault (Called α σ × Pacer)
  | fuel, attempt, p, s =>
    let (a, s) := run s attempt
    let ok := retryable a
    let p := p.adjust ok
    let giveUp : Except Fault (Called α σ × Pacer) :=
      if ok && attempt + 1 ≥ wordBound then .error Fault.addOverflow else .ok (⟨a, attempt + 1, s⟩, p)
    match fuel with
    | 0 => giveUp
    | fuel + 1 =>
      if p.policy.shouldRetry attempt ok then
        if p.policy.maxRetries + 1 ≥ wordBound then .error Fault.addOverflow
        else callFrom run retryable fuel (attempt + 1) { p with retries := p.retries + 1 } s
      else giveUp

/-- Runs `run` (given the attempt number) until its outcome is not retryable or the
budget is spent; the outcome of the last attempt is returned. -/
def call {α σ : Type} (p : Pacer) (run : σ → Nat → α × σ) (retryable : α → Bool) (s : σ) :
    Except Fault (Called α σ × Pacer) :=
  callFrom run retryable p.policy.maxRetries 0 p s

end Pacer

/-- A pacer shared by calls that run side by side, with the instant its next call may
start, in nanoseconds from when it was made: what its lock guards. -/
structure SharedPacer where
  pacer : Pacer
  nextCall : Nat := 0
  deriving DecidableEq, Repr

namespace SharedPacer

/-- A fresh shared pacer: its first call may start at once. -/
def make (policy : RetryPolicy) : SharedPacer := { pacer := Pacer.make policy }

/-- Grants a call asking at `now`: it starts at the later of `now` and the next start, and
the next start moves on by the present spacing.  Returns the wait before the start. -/
def beginCall (s : SharedPacer) (now : Nat) : Nat × SharedPacer :=
  let start := max s.nextCall now
  (start - now, { s with nextCall := start + s.pacer.sleep })

/-- Ends an attempt: its outcome widens or decays the spacing. -/
def endCall (s : SharedPacer) (retryable : Bool) : SharedPacer :=
  { s with pacer := s.pacer.adjust retryable }

end SharedPacer

end ChunkProxy
