import ChunkProxy.Fault
/-!
# Readings of the system clock

A reading of the system clock is a number of whole seconds since the epoch, negative before
it, and the nanoseconds past that second.  Readings compare second first, then nanosecond.
The seconds are a signed 64-bit number, so a reading holds seconds up to `timeLimit`; adding
a time to live past them is a fault.

A chunk file records an expiry in whole seconds since the epoch: a reading is cut down to its
second, and one before the epoch is recorded as zero (`epochSecs`).  Reading the record back
gives the start of that second (`ofEpochSecs`).
-/

namespace ChunkProxy.Cache

set_option autoImplicit false

/-- Nanoseconds in a second. -/
def secondNanos : Nat := 1000000000

/-- A reading of the system clock: whole seconds since the epoch, negative before it, and
the nanoseconds past them. -/
structure Time where
  secs : Int
  nanos : Fin secondNanos
  deriving DecidableEq, Repr

namespace Time

/-- One reading lies before another: an earlier second, or the same second and an earlier
nanosecond. -/
instance : LT Time := ⟨fun a b => a.secs < b.secs ∨ (a.secs = b.secs ∧ a.nanos < b.nanos)⟩

/-- One reading lies at or before another. -/
instance : LE Time := ⟨fun a b => a.secs < b.secs ∨ (a.secs = b.secs ∧ a.nanos ≤ b.nanos)⟩

instance (a b : Time) : Decidable (a < b) := inferInstanceAs (Decidable (_ ∨ _))

instance (a b : Time) : Decidable (a ≤ b) := inferInstanceAs (Decidable (_ ∨ _))

theorem lt_iff {a b : Time} : a < b ↔ a.secs < b.secs ∨ (a.secs = b.secs ∧ a.nanos.val < b.nanos.val) :=
  Iff.rfl

theorem le_iff {a b : Time} : a ≤ b ↔ a.secs < b.secs ∨ (a.secs = b.secs ∧ a.nanos.val ≤ b.nanos.val) :=
  Iff.rfl

/-- Readings are totally ordered: a reading not at or before another lies after it. -/
theorem not_le {a b : Time} : ¬ a ≤ b ↔ b < a := by
  rw [le_iff, lt_iff]
  omega

theorem not_lt {a b : Time} : ¬ a < b ↔ b ≤ a := by
  rw [le_iff, lt_iff]
  omega

end Time

/-- The last whole second a reading holds. -/
def timeLimit : Nat := Nat.pow 2 63 - 1

/-- The fault of a time past the clock's range. -/
def timeOverflow : Fault := ⟨"overflow when adding duration to `SystemTime`"⟩

/-- A time some whole seconds after another: the seconds join the reading's seconds, which
must stay within the clock. -/
def addSecs (now : Time) (secs : Nat) : Except Fault Time :=
  if now.secs + secs > timeLimit then .error timeOverflow else .ok { now with secs := now.secs + secs }

/-- The whole seconds from the epoch to a time, as a chunk file records them: the time's
second, and zero for a time before the epoch. -/
def epochSecs (t : Time) : Nat := t.secs.toNat

/-- The start of a second counted from the epoch. -/
def ofEpochSecs (secs : Nat) : Time := ⟨secs, ⟨0, by decide⟩⟩

/-- A numeral is the start of that second after the epoch. -/
instance (n : Nat) : OfNat Time n := ⟨ofEpochSecs n⟩

theorem addSecs_of_fits {now : Time} {secs : Nat} (fits : now.secs + secs ≤ timeLimit) :
    addSecs now secs = .ok { now with secs := now.secs + secs } := by
  rw [addSecs, if_neg (Int.not_lt.mpr fits)]

theorem addSecs_of_late {now : Time} {secs : Nat} (late : (timeLimit : Int) < now.secs + secs) :
    addSecs now secs = .error timeOverflow := by
  rw [addSecs, if_pos late]

/-- A reading the clock holds is recorded as a second the clock holds. -/
theorem epochSecs_le {t : Time} (fits : t.secs ≤ timeLimit) : epochSecs t ≤ timeLimit := by
  unfold epochSecs
  omega

/-- A time before the epoch is recorded as second zero. -/
theorem epochSecs_of_lt_epoch {t : Time} (before : t < ofEpochSecs 0) : epochSecs t = 0 := by
  rw [Time.lt_iff] at before
  unfold epochSecs
  simp only [ofEpochSecs] at before
  omega

/-- A time from the epoch on is recorded as its second: that second starts at or before it,
and the next one after it. -/
theorem ofEpochSecs_epochSecs {t : Time} (after : ofEpochSecs 0 ≤ t) :
    ofEpochSecs (epochSecs t) ≤ t ∧ t < ofEpochSecs (epochSecs t + 1) := by
  rw [Time.le_iff] at after ⊢
  rw [Time.lt_iff]
  simp only [ofEpochSecs, epochSecs] at after ⊢
  omega

@[simp] theorem ofEpochSecs_secs (s : Nat) : (ofEpochSecs s).secs = s := rfl

@[simp] theorem epochSecs_ofEpochSecs (s : Nat) : epochSecs (ofEpochSecs s) = s := by
  simp [epochSecs]

end ChunkProxy.Cache
