import ChunkProxy.Proofs.ChunkFileRoundTrip
/-!
# When the chunk cache faults

Storing a chunk adds the time to live to the clock, and reading a chunk file measures its
range and reads the expiry it records; each of these is arithmetic that can leave its range.
This module says exactly when.

A store faults exactly when the expiry it computes lies past the clock's range
(`Tiered.store_eq_error_iff`), whatever the memory, the disk and the range.  A lookup faults
exactly when memory misses and the chunk's file is there to be read, and reading it faults
(`Tiered.lookup_eq_error_iff`); `ReadFault` lists the three ways: a range that ends before it
starts, a range whose size with the expiry leaves a word, and a whole file whose expiry lies
past the clock's range (`Tiered.readChunk_eq_error_iff`).  So a store faults for every time to
live that reaches the clock's range from now, and a lookup for every range of `2^64 - 8` bytes
or more that has a file.
-/

namespace ChunkProxy.Cache

set_option autoImplicit false

/-- The faults reading a chunk file of `bytes` raises for a range. -/
inductive ReadFault (r : ByteRange) (bytes : List UInt8) : Fault → Prop
  /-- The range ends before it starts. -/
  | reversed : r.last < r.first → ReadFault r bytes Fault.subOverflow
  /-- The range's size, with the expiry in front, leaves a word. -/
  | oversized : r.first ≤ r.last → wordBound ≤ r.length + expiryLength → ReadFault r bytes Fault.addOverflow
  /-- The file is as long as its range and its expiry lies past the clock's range. -/
  | lateExpiry : r.first ≤ r.last → r.length + expiryLength < wordBound →
      bytes.length = r.length + expiryLength → timeLimit < readLe8 bytes → ReadFault r bytes timeOverflow

namespace Tiered

variable {c : Tiered} {r : ByteRange} {now : Time} {f : Fault}

theorem readChunk_of_reversed {path : List String} {bytes : List UInt8} (read : c.disk.readFile path = .ok bytes)
    (reversed : r.last < r.first) : c.readChunk path r now = .error Fault.subOverflow := by
  have sized : r.size = .error Fault.subOverflow := by simp [ByteRange.size, reversed]
  simp [readChunk, read, sized, bind, Except.bind]

theorem readChunk_of_oversized {path : List String} {bytes : List UInt8} (read : c.disk.readFile path = .ok bytes)
    (ordered : r.first ≤ r.last) (oversized : wordBound ≤ r.length + expiryLength) :
    c.readChunk path r now = .error Fault.addOverflow := by
  by_cases fits : r.last - r.first + 1 < wordBound
  · -- the size is a word, and adding the expiry's length leaves it
    have sized := ByteRange.size_of_le ordered fits
    simp [readChunk, read, sized, bind, Except.bind, oversized, throw, throwThe, MonadExceptOf.throw]
  · have sized : r.size = .error Fault.addOverflow := by
      simp only [ByteRange.size]
      rw [if_neg (Nat.not_lt.mpr ordered), if_pos (Nat.le_of_not_lt fits)]
    simp [readChunk, read, sized, bind, Except.bind]

/-- A file read for an ordered range whose size with the expiry fits a word: dropped when its
length is wrong, a fault when its expiry lies past the clock's range, else dropped when
expired and returned when live. -/
theorem readChunk_of_fits {path : List String} {bytes : List UInt8} (read : c.disk.readFile path = .ok bytes)
    (ordered : r.first ≤ r.last) (fits : r.length + expiryLength < wordBound) :
    c.readChunk path r now =
      if bytes.length ≠ r.length + expiryLength then
        .ok (none, { c with disk := (c.disk.removeFile path).toOption.getD c.disk })
      else if timeLimit < readLe8 bytes then .error timeOverflow
      else if ofEpochSecs (readLe8 bytes) ≤ now then
        .ok (none, { c with disk := (c.disk.removeFile path).toOption.getD c.disk })
      else .ok (some (bytes.drop expiryLength, ofEpochSecs (readLe8 bytes)), c) := by
  have sized := ByteRange.size_of_le ordered (by unfold ByteRange.length at fits; omega)
  simp only [readChunk, read, sized, bind, Except.bind, if_neg (Nat.not_le.mpr fits), bne_iff_ne, ne_eq]
  split <;> rfl

/-- Reading a chunk file faults exactly when the file is there and `ReadFault` names the fault. -/
theorem readChunk_eq_error_iff {path : List String} :
    c.readChunk path r now = .error f ↔ ∃ bytes, c.disk.readFile path = .ok bytes ∧ ReadFault r bytes f := by
  cases read : c.disk.readFile path with
  | error e => simp [readChunk, read, pure, Except.pure]
  | ok bytes =>
    simp only [Except.ok.injEq, exists_eq_left']
    by_cases reversed : r.last < r.first
    · rw [readChunk_of_reversed read reversed, Except.error.injEq]
      constructor
      · rintro rfl
        exact .reversed reversed
      · rintro (_ | ⟨ordered, -⟩ | ⟨ordered, -⟩)
        · rfl
        all_goals omega
    have ordered := Nat.le_of_not_lt reversed
    by_cases oversized : wordBound ≤ r.length + expiryLength
    · rw [readChunk_of_oversized read ordered oversized, Except.error.injEq]
      constructor
      · rintro rfl
        exact .oversized ordered oversized
      · rintro (⟨back⟩ | _ | ⟨-, fits⟩)
        · omega
        · rfl
        · omega
    have fits := Nat.lt_of_not_le oversized
    rw [readChunk_of_fits read ordered fits]
    -- only a whole file with an expiry past the clock's range faults
    by_cases whole : bytes.length = r.length + expiryLength
    · by_cases late : timeLimit < readLe8 bytes
      · simp only [whole, ne_eq, not_true_eq_false, if_false, if_pos late, Except.error.injEq]
        constructor
        · rintro rfl
          exact .lateExpiry ordered fits whole late
        · rintro (⟨back⟩ | ⟨-, big⟩ | _)
          · omega
          · omega
          · rfl
      · simp only [whole, ne_eq, not_true_eq_false, if_false, if_neg late]
        constructor
        · intro ok
          split at ok <;> cases ok
        · rintro (⟨back⟩ | ⟨-, big⟩ | ⟨-, -, -, past⟩)
          all_goals omega
    · simp only [whole, ne_eq, not_false_eq_true, if_true]
      constructor
      · intro ok
        cases ok
      · rintro (⟨back⟩ | ⟨-, big⟩ | ⟨-, -, same, -⟩)
        all_goals omega

/-- A store faults exactly when its expiry, now plus the time to live, lies past the clock's
range. -/
theorem store_eq_error_iff {remote : String} {data : List UInt8} :
    c.store remote r data now = .error f ↔ timeLimit < now.secs + c.ttl ∧ f = timeOverflow := by
  by_cases late : (timeLimit : Int) < now.secs + c.ttl
  · rw [store_overflow late, Except.error.injEq]
    exact ⟨fun same => ⟨late, same.symm⟩, fun ⟨_, same⟩ => same.symm⟩
  · have expires := addSecs_of_fits (Int.not_lt.mp late)
    simp only [late, false_and, iff_false]
    unfold store
    rw [expires]
    intro faulted
    simp only [bind, Except.bind] at faulted
    split at faulted
    · cases faulted
    · split at faulted <;> cases faulted

/-- A lookup that hits memory returns the chunk held there. -/
theorem lookup_of_hit {remote : String} {data : List UInt8}
    (hit : (c.memory.lookup (chunkKey remote r) now).1 = some data) :
    c.lookup remote r now = .ok (some data, (c.lookupMemory remote r now).2) := by
  unfold lookup lookupMemory
  generalize c.memory.lookup (chunkKey remote r) now = out at hit ⊢
  obtain ⟨found, memory⟩ := out
  simp only at hit
  subst hit
  rfl

/-- Looking a chunk up on disk faults exactly when there is a disk tier, the chunk's file is
there, and reading it faults. -/
theorem lookupDisk_eq_error_iff {remote : String} :
    c.lookupDisk remote r now = .error f ↔
      ∃ t bytes, c.tier = some t ∧ c.disk.readFile (t.base ++ chunkFile remote r) = .ok bytes ∧
        ReadFault r bytes f := by
  unfold lookupDisk
  cases tier : c.tier with
  | none => simp [bind, Except.bind, pure, Except.pure]
  | some t =>
    simp only [bind, Except.bind, Option.some.injEq]
    constructor
    · intro faulted
      split at faulted
      · rename_i err read
        cases faulted
        obtain ⟨bytes, found, fault⟩ := readChunk_eq_error_iff.mp read
        exact ⟨t, bytes, rfl, found, fault⟩
      · split at faulted <;> cases faulted
    · rintro ⟨_, bytes, rfl, found, fault⟩
      rw [readChunk_eq_error_iff.mpr ⟨bytes, found, fault⟩]

/-- A lookup faults exactly when memory misses, the chunk's file is there, and reading it faults. -/
theorem lookup_eq_error_iff {remote : String} :
    c.lookup remote r now = .error f ↔
      (c.memory.lookup (chunkKey remote r) now).1 = none ∧
        ∃ t bytes, c.tier = some t ∧ c.disk.readFile (t.base ++ chunkFile remote r) = .ok bytes ∧
          ReadFault r bytes f := by
  cases hit : (c.memory.lookup (chunkKey remote r) now).1 with
  | some data => simp [lookup_of_hit hit]
  | none =>
    -- the disk is read with memory as the miss left it, and with the lookup's tier and disk
    rw [lookup_of_miss hit, lookupDisk_eq_error_iff]
    simp only [true_and]

/-- A store faults exactly when its expiry lies past the clock's range, and a lookup exactly when
memory misses, the chunk's file is there, and its range or expiry leaves the arithmetic's range;
neither faults for any other reason, whatever memory holds and whatever files the disk has. -/
theorem store_lookup_fault_exactly (c : Tiered) (remote : String) (r : ByteRange) (data : List UInt8)
    (now : Time) (f : Fault) :
    (c.store remote r data now = .error f ↔ timeLimit < now.secs + c.ttl ∧ f = timeOverflow) ∧
    (c.lookup remote r now = .error f ↔
      (c.memory.lookup (chunkKey remote r) now).1 = none ∧
        ∃ t bytes, c.tier = some t ∧ c.disk.readFile (t.base ++ chunkFile remote r) = .ok bytes ∧
          ReadFault r bytes f) :=
  ⟨store_eq_error_iff, lookup_eq_error_iff⟩

/-- A memory-only cache whose time to live is the largest 64-bit number faults on its first
store. -/
theorem store_faults_on_huge_ttl :
    (memoryOnly (Nat.pow 2 64 - 1) 8).store "f" ⟨0, 3⟩ [97, 98, 99, 100] 1767225600 = .error timeOverflow :=
  ((store_lookup_fault_exactly _ _ _ _ _ _).1.mpr ⟨by decide, rfl⟩)

end Tiered

end ChunkProxy.Cache
