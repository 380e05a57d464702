import ChunkProxy.Proofs.ChunkFileRoundTrip
/-!
# The last store wins

A history of stores and lookups names, for every chunk key, the data stored under it last
(`lastStored`).  A lookup that returns a chunk returns that data (`lookup_returns_last_store`)
on a cache started with an empty memory tier and no files of the chunks it serves, when
every chunk stored fits the memory bound, the writer counted no disk error, and chunks that
share a file below the cache directory share a key.

The invariant is `Tiered.Agrees`: every entry in memory and every chunk file holds the data
stored last under its key.  Memory keeps it because a store that fits replaces the entry of
its key and a lookup brings back only what it found.  The disk keeps it because a write
that succeeds leaves the chunk file holding the data just stored and touches no other chunk
file, while the disk bound and the discarding of a bad file only remove files.

Each hypothesis stands for a way an older chunk comes back.  A chunk larger than the memory
bound is not stored, and the entry of its key stays.  Two remotes whose paths differ only
in empty or dot segments share one file under two keys (`aliased_remotes_share_a_file`).
A write that fails leaves the older file.
-/

namespace ChunkProxy.Cache

set_option autoImplicit false

namespace Memory

/-- A store of a chunk within the bound replaces the entry of its key: every entry after it
is the new chunk, or an entry under another key that was there. -/
theorem mem_store_of_fits {m : Memory} {key : String} {data : List UInt8} {expires : Time} {s : Slot}
    (fits : data.length ≤ m.limit) (mem : s ∈ (m.store key data expires).slots) :
    (s ∈ m.slots ∧ s.key ≠ key) ∨ (s.key = key ∧ s.data = data) := by
  unfold store at mem
  rw [if_neg (Nat.not_lt.mpr fits)] at mem
  simp only [List.mem_append, List.mem_singleton] at mem
  rcases mem with kept | rfl
  · have earlier := mem_makeRoom _ _ kept
    rw [remove_slots, List.mem_filter, bne_iff_ne] at earlier
    exact .inl earlier
  · exact .inr ⟨rfl, rfl⟩

end Memory

/-- The file a chunk is written to aside is no chunk's file. -/
theorem chunkFile_ne_partial (base : List String) (remote remote' : String) (r r' : ByteRange) :
    base ++ chunkFile remote' r' ≠ (base ++ plainSegments remote) ++ [rangeName r ++ ".partial"] := by
  intro same
  have last := congrArg List.getLast? same
  simp only [chunkFile, ← List.append_assoc, List.getLast?_concat, Option.some.injEq] at last
  exact partialName_ne_rangeName r r' last.symm

/-- A dot names no directory: a chunk of the file at `.` lies right below the cache
directory, in the file of the same chunk of the root. -/
theorem plainSegments_dot : plainSegments "." = [] := by
  rw [plainSegments, String.splitOn, String.splitOnAux, String.splitOnAux]
  decide

theorem chunkFile_dot (r : ByteRange) : chunkFile "." r = [rangeName r] := by
  rw [chunkFile, plainSegments_dot, List.nil_append]

/-- After a chunk write that succeeds, the chunk file holds the expiry and the chunk; any
other file is one that was there or the one written aside. -/
theorem writeChunk_written_files {d : Disk} {parent : List String} {leaf : String} {data : List UInt8}
    {expires : Time} (written : (writeChunk d (parent ++ [leaf]) data expires).2 = true) {q : List String}
    {bytes : List UInt8} {stamp : Nat}
    (found : (writeChunk d (parent ++ [leaf]) data expires).1.find? q = some (.file bytes stamp)) :
    (q = parent ++ [leaf] ∧ bytes = le8 (epochSecs expires) ++ data) ∨
      (q ≠ parent ++ [leaf] ∧
        ((∃ stamp', d.find? q = some (.file bytes stamp')) ∨ q = parent ++ [leaf ++ ".partial"])) := by
  by_cases at_path : q = parent ++ [leaf]
  · -- the rename put the new file there, whatever was there before
    subst at_path
    obtain ⟨stamp', held⟩ := (Disk.writeChunk_holding written).file
    rw [held, Option.some.injEq, Entry.file.injEq] at found
    exact .inl ⟨rfl, found.1.symm⟩
  · rcases writeChunk_files d _ data expires found with old | ⟨same, -⟩ | aside
    · exact .inr ⟨at_path, .inl old⟩
    · exact absurd same at_path
    · simp only [List.dropLast_concat, List.getLastD_concat] at aside
      exact .inr ⟨at_path, .inr aside⟩

namespace DiskTier

theorem evict_running (t : DiskTier) (d : Disk) : (t.evict d).1.running = t.running := by
  unfold evict
  split <;> rfl

end DiskTier

namespace Tiered

/-! ## Histories and the data stored last -/

/-- The chunk a call names. -/
def Call.chunk : Call → String × ByteRange
  | .store remote r _ _ => (remote, r)
  | .lookup remote r _ => (remote, r)

/-- Records a call in the data stored last under each key: a store sets its key. -/
def Call.record (last : String → Option (List UInt8)) : Call → String → Option (List UInt8)
  | .store remote r data _ => Function.update last (chunkKey remote r) (some data)
  | .lookup _ _ _ => last

/-- The data stored last under each key in a history of calls. -/
def lastStored (calls : List Call) : String → Option (List UInt8) :=
  calls.foldl Call.record fun _ => none

/-- Chunks of `used` share a file below the cache directory exactly when they share a key. -/
def Named (used : List (String × ByteRange)) : Prop :=
  ∀ a ∈ used, ∀ b ∈ used, chunkFile a.1 a.2 = chunkFile b.1 b.2 ↔ chunkKey a.1 a.2 = chunkKey b.1 b.2

/-- The chunks of one remote share a file exactly when they share a key: both name the
range. -/
theorem named_of_remote (remote : String) {used : List (String × ByteRange)}
    (one : ∀ chunk ∈ used, chunk.1 = remote) : Named used := by
  rintro ⟨remote_a, a⟩ mem_a ⟨remote_b, b⟩ mem_b
  have same_a : remote_a = remote := one _ mem_a
  have same_b : remote_b = remote := one _ mem_b
  dsimp only
  rw [same_a, same_b]
  constructor
  · intro same
    have ranges : a = b := chunkFile_injective [] remote (by simpa using same)
    rw [ranges]
  · intro same
    have ranges : a = b := chunkKey_injective remote same
    rw [ranges]

/-- What a cache holds agrees with the data stored last (`last`): every entry in memory holds
the data stored last under its key; a file of a chunk of `used` below the cache directory
exists only while the writer runs, and holds, after its expiry, the data stored last under
the chunk's key; and with a disk tier the chunks of `used` are `Named`. -/
structure Agrees (used : List (String × ByteRange)) (last : String → Option (List UInt8)) (c : Tiered) :
    Prop where
  memory : ∀ s ∈ c.memory.slots, last s.key = some s.data
  disk : ∀ t, c.tier = some t → ∀ chunk ∈ used, ∀ bytes stamp,
    c.disk.find? (t.base ++ chunkFile chunk.1 chunk.2) = some (.file bytes stamp) →
      t.running = true ∧ last (chunkKey chunk.1 chunk.2) = some (bytes.drop expiryLength)
  named : ∀ t, c.tier = some t → Named used

/-- The bytes a cache holds for a chunk: an entry under the chunk's key, or, after the
expiry, the chunk's file below the cache directory. -/
def Keeps (c : Tiered) (remote : String) (r : ByteRange) (data : List UInt8) : Prop :=
  (∃ s ∈ c.memory.slots, s.key = chunkKey remote r ∧ s.data = data) ∨
    ∃ t bytes stamp, c.tier = some t ∧
      c.disk.find? (t.base ++ chunkFile remote r) = some (.file bytes stamp) ∧ data = bytes.drop expiryLength

theorem Agrees.keeps {used : List (String × ByteRange)} {last : String → Option (List UInt8)} {c : Tiered}
    (agrees : c.Agrees used last) {remote : String} {r : ByteRange} (chunk : (remote, r) ∈ used)
    {data : List UInt8} (kept : c.Keeps remote r data) : last (chunkKey remote r) = some data := by
  rcases kept with ⟨s, mem, keyed, same⟩ | ⟨t, bytes, stamp, tier, found, same⟩
  · rw [← keyed, ← same]
    exact agrees.memory s mem
  · rw [same]
    exact (agrees.disk t tier (remote, r) chunk bytes stamp found).2

/-! ## What a lookup brings back -/

/-- A read of a chunk file leaves memory and the disk tier, only removes files, and finds
the bytes of the file after the expiry. -/
theorem readChunk_found {c c' : Tiered} {path : List String} {r : ByteRange} {now : Time}
    {found : Option (List UInt8 × Time)} (read : c.readChunk path r now = .ok (found, c')) :
    c'.memory = c.memory ∧ c'.tier = c.tier ∧ c.disk.Shrinks c'.disk ∧
      ∀ data e, found = some (data, e) →
        ∃ bytes stamp, c.disk.find? path = some (.file bytes stamp) ∧ data = bytes.drop expiryLength := by
  rcases readChunk_cases read with ⟨rfl, rfl | rfl⟩ | ⟨bytes, fileRead, -, rfl, rfl⟩
  · exact ⟨rfl, rfl, Disk.Shrinks.refl _, fun _ _ none_found => by cases none_found⟩
  · -- a bad or expired file is removed
    exact ⟨rfl, rfl, Disk.shrinks_removeFile_or_keep c.disk path, fun _ _ none_found => by cases none_found⟩
  · obtain ⟨stamp, file⟩ := Disk.readFile_ok fileRead
    exact ⟨rfl, rfl, Disk.Shrinks.refl _, fun _ _ same => by cases same; exact ⟨bytes, stamp, file, rfl⟩⟩

/-- A lookup on disk leaves the disk tier and only removes files; it returns the chunk file's
bytes and stores them in memory, or returns nothing and leaves memory. -/
theorem lookupDisk_found {c c' : Tiered} {remote : String} {r : ByteRange} {now : Time}
    {res : Option (List UInt8)} (looked : c.lookupDisk remote r now = .ok (res, c')) :
    c'.tier = c.tier ∧ c.disk.Shrinks c'.disk ∧
      ((res = none ∧ c'.memory = c.memory) ∨
        ∃ data expires, res = some data ∧ c'.memory = c.memory.store (chunkKey remote r) data expires ∧
          ∃ t bytes stamp, c.tier = some t ∧
            c.disk.find? (t.base ++ chunkFile remote r) = some (.file bytes stamp) ∧
            data = bytes.drop expiryLength) := by
  obtain ⟨found, c₁, source, outcome⟩ := lookupDisk_inv looked
  have read : c₁.memory = c.memory ∧ c₁.tier = c.tier ∧ c.disk.Shrinks c₁.disk ∧
      ∀ data e, found = some (data, e) → ∃ t bytes stamp, c.tier = some t ∧
        c.disk.find? (t.base ++ chunkFile remote r) = some (.file bytes stamp) ∧ data = bytes.drop expiryLength := by
    rcases source with ⟨-, rfl, rfl⟩ | ⟨t, tier, read⟩
    · exact ⟨rfl, rfl, Disk.Shrinks.refl _, fun _ _ none_found => by cases none_found⟩
    · obtain ⟨memory, tier₁, shrinks, file⟩ := readChunk_found read
      refine ⟨memory, tier₁, shrinks, fun data e hit => ?_⟩
      obtain ⟨bytes, stamp, held, same⟩ := file data e hit
      exact ⟨t, bytes, stamp, tier, held, same⟩
  obtain ⟨memory, tier, shrinks, file⟩ := read
  rcases outcome with ⟨-, rfl, rfl⟩ | ⟨data, expires, rfl, rfl, rfl⟩
  · exact ⟨tier, shrinks, .inl ⟨rfl, memory⟩⟩
  · exact ⟨tier, shrinks, .inr ⟨data, expires, rfl, by rw [memory], file data expires rfl⟩⟩

/-- A lookup leaves the disk tier and only removes files; what it returns the cache kept,
and every entry in memory after it was there before or holds what it returned. -/
theorem lookup_keeps {c c' : Tiered} {remote : String} {r : ByteRange} {now : Time}
    {res : Option (List UInt8)} (looked : c.lookup remote r now = .ok (res, c')) :
    c'.tier = c.tier ∧ c.disk.Shrinks c'.disk ∧ (∀ data, res = some data → c.Keeps remote r data) ∧
      ∀ s ∈ c'.memory.slots, (∃ s₀ ∈ c.memory.slots, s₀.key = s.key ∧ s₀.data = s.data) ∨
        (s.key = chunkKey remote r ∧ res = some s.data) := by
  unfold lookup at looked
  obtain ⟨counters, shape⟩ := lookupMemory_shape c remote r now
  rw [shape] at looked
  cases hit : (c.memory.lookup (chunkKey remote r) now).1 with
  | some data =>
    -- a memory hit: only the ticks of memory change
    simp only [hit, pure, Except.pure, Except.ok.injEq, Prod.mk.injEq] at looked
    obtain ⟨rfl, rfl⟩ := looked
    refine ⟨rfl, Disk.Shrinks.refl _, fun d same => .inl ?_, fun s mem => .inl (Memory.mem_lookup mem)⟩
    obtain ⟨s, mem, keyed, held⟩ := Memory.found_of_lookup hit
    exact ⟨s, mem, keyed, held.trans (Option.some.inj same)⟩
  | none =>
    -- a memory miss: the disk answers, and a chunk found there is stored in memory
    simp only [hit] at looked
    obtain ⟨tier, shrinks, outcome⟩ := lookupDisk_found looked
    refine ⟨tier, shrinks, ?_, ?_⟩
    · rintro d rfl
      rcases outcome with ⟨absent, -⟩ | ⟨data, -, same, -, t, bytes, stamp, at_tier, held, read⟩
      · cases absent
      · cases same
        exact .inr ⟨t, bytes, stamp, at_tier, held, read⟩
    · intro s mem
      rcases outcome with ⟨-, memory⟩ | ⟨data, expires, rfl, memory, -⟩
      · rw [memory] at mem
        exact .inl (Memory.mem_lookup mem)
      · rw [memory] at mem
        rcases Memory.mem_store mem with old | ⟨keyed, held⟩
        · exact .inl (Memory.mem_lookup old)
        · exact .inr ⟨keyed, by rw [held]⟩

/-- A lookup of a chunk of `used` keeps the agreement, and what it returns is the data stored
last under the chunk's key. -/
theorem Agrees.lookup {used : List (String × ByteRange)} {last : String → Option (List UInt8)}
    {c c' : Tiered} (agrees : c.Agrees used last) {remote : String} {r : ByteRange} {now : Time}
    {res : Option (List UInt8)} (looked : c.lookup remote r now = .ok (res, c')) (chunk : (remote, r) ∈ used) :
    c'.Agrees used last ∧ ∀ data, res = some data → last (chunkKey remote r) = some data := by
  obtain ⟨tier, shrinks, found, slots⟩ := lookup_keeps looked
  have served : ∀ data, res = some data → last (chunkKey remote r) = some data :=
    fun data hit => agrees.keeps chunk (found data hit)
  refine ⟨⟨fun s mem => ?_, fun t at_tier b used_b bytes stamp file => ?_, fun t at_tier => ?_⟩, served⟩
  · rcases slots s mem with ⟨s₀, mem₀, keyed, same⟩ | ⟨keyed, hit⟩
    · rw [← keyed, ← same]
      exact agrees.memory s₀ mem₀
    · rw [keyed]
      exact served _ hit
  · obtain ⟨stamp', file'⟩ := shrinks _ bytes stamp file
    exact agrees.disk t (tier ▸ at_tier) b used_b bytes stamp' file'
  · exact agrees.named t (tier ▸ at_tier)

/-! ## What a store writes -/

/-- A store keeps the chunk in memory; the writer, when it runs, takes the chunk, and when it
has stopped (or there is no disk tier) nothing else changes. -/
theorem store_cases {c c' : Tiered} {remote : String} {r : ByteRange} {data : List UInt8} {now : Time}
    {res : Except ProxyError Unit} (stored : c.store remote r data now = .ok (res, c')) :
    ∃ expires,
      (c' = { c with memory := c.memory.store (chunkKey remote r) data expires } ∧
          ∀ t, c.tier = some t → t.running = false) ∨
        ∃ t, c.tier = some t ∧ t.running = true ∧
          c' = ({ c with memory := c.memory.store (chunkKey remote r) data expires } : Tiered).writeBehind t
            (t.base ++ chunkFile remote r) data expires := by
  unfold store at stored
  cases added : addSecs now c.ttl with
  | error f => simp [added, bind, Except.bind] at stored
  | ok expires =>
    refine ⟨expires, ?_⟩
    simp only [added, bind, Except.bind] at stored
    split at stored
    · rename_i none_tier
      cases stored
      exact .inl ⟨rfl, fun t at_tier => by simp [none_tier] at at_tier⟩
    · rename_i t some_tier
      split at stored
      · rename_i running
        cases stored
        exact .inr ⟨t, some_tier, running, rfl⟩
      · rename_i stopped
        cases stored
        exact .inl ⟨rfl, fun t' at_tier => by simp_all⟩

/-- The writer after a write that succeeds: its tier keeps its directory and whether it
runs, and its disk only removes files from what the write left. -/
theorem writeBehind_written_disk {c : Tiered} {t : DiskTier} {path : List String} {data : List UInt8}
    {expires : Time} (written : (writeChunk c.disk path data expires).2 = true) :
    ∃ t', (c.writeBehind t path data expires).tier = some t' ∧ t'.base = t.base ∧ t'.running = t.running ∧
      (writeChunk c.disk path data expires).1.Shrinks (c.writeBehind t path data expires).disk := by
  rw [writeBehind_of_written written]
  exact ⟨_, rfl, DiskTier.evict_base _ _, DiskTier.evict_running _ _, DiskTier.evict_shrinks _ _⟩

/-- Memory after a store of a chunk within the bound agrees with the data stored last once
the store is recorded. -/
theorem agrees_memory_store {m : Memory} {last : String → Option (List UInt8)} {key : String}
    {data : List UInt8} {expires : Time} (agrees : ∀ s ∈ m.slots, last s.key = some s.data)
    (fits : data.length ≤ m.limit) :
    ∀ s ∈ (m.store key data expires).slots, Function.update last key (some data) s.key = some s.data := by
  intro s mem
  rcases Memory.mem_store_of_fits fits mem with ⟨old, other⟩ | ⟨keyed, same⟩
  · rw [Function.update_of_ne other]
    exact agrees s old
  · rw [keyed, same, Function.update_self]

/-- A store of a chunk of `used` within the memory bound, whose write (if any) the writer
does not count as a disk error, keeps the agreement once the store is recorded. -/
theorem Agrees.store {used : List (String × ByteRange)} {last : String → Option (List UInt8)}
    {c c' : Tiered} (agrees : c.Agrees used last) {remote : String} {r : ByteRange} {data : List UInt8}
    {now : Time} {res : Except ProxyError Unit} (stored : c.store remote r data now = .ok (res, c'))
    (chunk : (remote, r) ∈ used) (fits : data.length ≤ c.memory.limit)
    (counted : c'.counters.diskErrors = c.counters.diskErrors) :
    c'.Agrees used (Function.update last (chunkKey remote r) (some data)) := by
  obtain ⟨expires, ⟨rfl, stopped⟩ | ⟨t, at_tier, running, rfl⟩⟩ := store_cases stored
  · -- nothing is written: a chunk file there would need a running writer
    refine ⟨agrees_memory_store agrees.memory fits, fun t at_tier b used_b bytes stamp file => ?_,
      agrees.named⟩
    have runs := (agrees.disk t at_tier b used_b bytes stamp file).1
    rw [stopped t at_tier] at runs
    cases runs
  · -- the writer takes the chunk, and the write succeeds
    have shape : t.base ++ chunkFile remote r = (t.base ++ plainSegments remote) ++ [rangeName r] := by
      simp [chunkFile]
    rw [shape] at counted ⊢
    have written := writeBehind_written counted
    obtain ⟨t', tier', base', running', shrinks⟩ := writeBehind_written_disk (t := t) written
    refine ⟨by rw [writeBehind_memory]; exact agrees_memory_store agrees.memory fits,
      fun t'' at_tier' b used_b bytes stamp file => ?_, fun t'' _ => agrees.named t at_tier⟩
    rw [tier', Option.some.injEq] at at_tier'
    subst at_tier'
    rw [base'] at file
    obtain ⟨stamp', written_file⟩ := shrinks _ bytes stamp file
    have names := agrees.named t at_tier b used_b (remote, r) chunk
    rcases writeChunk_written_files written written_file with ⟨at_path, held⟩ | ⟨other, old | aside⟩
    · -- the chunk's own file, or a file it shares: it holds the data just stored
      rw [← shape, List.append_cancel_left_eq] at at_path
      rw [names.mp at_path, Function.update_self, held, List.drop_left' (length_le8 _)]
      exact ⟨running'.trans running, rfl⟩
    · -- another chunk's file, left as it was: its key is another key
      have key_ne : chunkKey b.1 b.2 ≠ chunkKey remote r := fun same => other (by
        rw [← shape, names.mpr same])
      rw [Function.update_of_ne key_ne]
      obtain ⟨stamp'', earlier⟩ := old
      exact ⟨running'.trans (agrees.disk t at_tier b used_b bytes stamp'' earlier).1,
        (agrees.disk t at_tier b used_b bytes stamp'' earlier).2⟩
    · exact absurd aside (chunkFile_ne_partial t.base remote b.1 r b.2)

/-! ## Histories -/

theorem runCalls_cons_ok {c c₁ : Tiered} {call : Call} (rest : List Call) (made : call.apply c = .ok c₁) :
    runCalls c (call :: rest) = runCalls c₁ rest := by
  simp [runCalls, made, bind, Except.bind]

theorem runCalls_cons_inv {c c' : Tiered} {call : Call} {rest : List Call}
    (ran : runCalls c (call :: rest) = .ok c') : ∃ c₁, call.apply c = .ok c₁ ∧ runCalls c₁ rest = .ok c' := by
  cases made : call.apply c with
  | error f => simp [runCalls, made, bind, Except.bind] at ran
  | ok c₁ => exact ⟨c₁, rfl, by rwa [runCalls_cons_ok rest made] at ran⟩

theorem Call.apply_store {c c' : Tiered} {remote : String} {r : ByteRange} {data : List UInt8} {now : Time}
    (made : (Call.store remote r data now).apply c = .ok c') : ∃ res, c.store remote r data now = .ok (res, c') := by
  cases stored : c.store remote r data now with
  | error f => simp [Call.apply, stored, Functor.map, Except.map] at made
  | ok result =>
    simp only [Call.apply, stored, Functor.map, Except.map, Except.ok.injEq] at made
    exact ⟨result.1, by rw [← made]⟩

theorem Call.apply_lookup {c c' : Tiered} {remote : String} {r : ByteRange} {now : Time}
    (made : (Call.lookup remote r now).apply c = .ok c') : ∃ res, c.lookup remote r now = .ok (res, c') := by
  cases looked : c.lookup remote r now with
  | error f => simp [Call.apply, looked, Functor.map, Except.map] at made
  | ok result =>
    simp only [Call.apply, looked, Functor.map, Except.map, Except.ok.injEq] at made
    exact ⟨result.1, by rw [← made]⟩

theorem writeBehind_diskErrors_le (c : Tiered) (t : DiskTier) (path : List String) (data : List UInt8)
    (expires : Time) : c.counters.diskErrors ≤ (c.writeBehind t path data expires).counters.diskErrors := by
  unfold writeBehind
  split
  split
  · exact Nat.le_refl _
  · exact Nat.le_succ _

theorem lookup_diskErrors {c c' : Tiered} {remote : String} {r : ByteRange} {now : Time}
    {res : Option (List UInt8)} (looked : c.lookup remote r now = .ok (res, c')) :
    c'.counters.diskErrors = c.counters.diskErrors := by
  rcases lookup_cases looked with ⟨-, -, -, -, counters⟩ | ⟨-, disk⟩
  · rw [counters]
  · rcases lookupDisk_cases disk with ⟨-, -, counters⟩ | ⟨_, _, -, -, -, counters⟩ <;> rw [counters]

/-- No call takes back a disk error the writer counted. -/
theorem Call.apply_diskErrors {c c' : Tiered} {call : Call} (made : call.apply c = .ok c') :
    c.counters.diskErrors ≤ c'.counters.diskErrors := by
  cases call with
  | store remote r data now =>
    obtain ⟨res, stored⟩ := Call.apply_store made
    obtain ⟨expires, ⟨rfl, -⟩ | ⟨t, -, -, rfl⟩⟩ := store_cases stored
    · exact Nat.le_refl _
    · exact writeBehind_diskErrors_le { c with memory := c.memory.store (chunkKey remote r) data expires } _ _ _ _
  | lookup remote r now =>
    obtain ⟨res, looked⟩ := Call.apply_lookup made
    exact Nat.le_of_eq (lookup_diskErrors looked).symm

theorem runCalls_diskErrors : ∀ (calls : List Call) {c c' : Tiered}, runCalls c calls = .ok c' →
    c.counters.diskErrors ≤ c'.counters.diskErrors
  | [], c, c', ran => by
    cases ran
    exact Nat.le_refl _
  | call :: rest, c, c', ran => by
    obtain ⟨c₁, made, ran'⟩ := runCalls_cons_inv ran
    exact Nat.le_trans (Call.apply_diskErrors made) (runCalls_diskErrors rest ran')

/-- One call on a chunk of `used` keeps the agreement once it is recorded, when a chunk it
stores fits the memory bound and the writer counts no disk error. -/
theorem Agrees.apply {used : List (String × ByteRange)} {last : String → Option (List UInt8)}
    {c c' : Tiered} (agrees : c.Agrees used last) {call : Call} (made : call.apply c = .ok c')
    (chunk : call.chunk ∈ used)
    (fits : ∀ remote r data now, call = .store remote r data now → data.length ≤ c.memory.limit)
    (counted : c'.counters.diskErrors = c.counters.diskErrors) : c'.Agrees used (call.record last) := by
  cases call with
  | store remote r data now =>
    obtain ⟨res, stored⟩ := Call.apply_store made
    have fit : data.length ≤ c.memory.limit := fits remote r data now rfl
    -- elaborated against `Function.update` first: against `Call.record` it takes seconds
    have kept := agrees.store stored chunk fit counted
    exact kept
  | lookup remote r now =>
    obtain ⟨res, looked⟩ := Call.apply_lookup made
    exact (agrees.lookup looked chunk).1

/-- A run of calls on chunks of `used`, each stored chunk within the memory bound and no disk
error counted, keeps the agreement with the data stored last. -/
theorem Agrees.run {used : List (String × ByteRange)} :
    ∀ (calls : List Call) {c c' : Tiered} {last : String → Option (List UInt8)}, c.memory.Sound →
      c.Agrees used last → (∀ call ∈ calls, call.chunk ∈ used) →
      (∀ remote r data now, Call.store remote r data now ∈ calls → data.length ≤ c.memory.limit) →
      runCalls c calls = .ok c' → c'.counters.diskErrors = c.counters.diskErrors →
      c'.Agrees used (calls.foldl Call.record last)
  | [], c, c', last, _, agrees, _, _, ran, _ => by
    cases ran
    exact agrees
  | call :: rest, c, c', last, sound, agrees, covered, fits, ran, counted => by
    obtain ⟨c₁, made, ran'⟩ := runCalls_cons_inv ran
    obtain ⟨sound₁, limit₁⟩ := Call.apply_sound sound made
    -- the count never goes down, so a run that ends where it began counted nothing in its first call
    have first : c₁.counters.diskErrors = c.counters.diskErrors :=
      Nat.le_antisymm (counted ▸ runCalls_diskErrors rest ran') (Call.apply_diskErrors made)
    have agrees₁ := agrees.apply made (covered call List.mem_cons_self)
      (fun remote r data now same => fits remote r data now (same ▸ List.mem_cons_self)) first
    refine Agrees.run rest sound₁ agrees₁ (fun call' mem => covered call' (List.mem_cons_of_mem _ mem))
      (fun remote r data now mem => ?_) ran' (counted.trans first.symm)
    rw [limit₁]
    exact fits remote r data now (List.mem_cons_of_mem _ mem)

/-- A cache started with an empty memory tier of bound `limit` and no files of the chunks of
`used`, after stores and lookups of those chunks at any times, each chunk stored within the
bound and no disk error counted, where with a disk tier chunks share a file exactly when they
share a key: a lookup of a chunk of `used` that returns a chunk returns the data stored last
under the chunk's key, never an older one. -/
theorem lookup_returns_last_store {limit : Nat} {c₀ c : Tiered} {calls : List Call}
    {used : List (String × ByteRange)} (fresh : c₀.memory = { limit })
    (clean : ∀ t, c₀.tier = some t → ∀ chunk ∈ used, ∀ bytes stamp,
      c₀.disk.find? (t.base ++ chunkFile chunk.1 chunk.2) ≠ some (.file bytes stamp))
    (named : ∀ t, c₀.tier = some t → Named used) (covered : ∀ call ∈ calls, call.chunk ∈ used)
    (fits : ∀ remote r data now, Call.store remote r data now ∈ calls → data.length ≤ limit)
    (ran : runCalls c₀ calls = .ok c) (counted : c.counters.diskErrors = c₀.counters.diskErrors)
    {remote : String} {r : ByteRange} {now : Time} {data : List UInt8} {c' : Tiered}
    (chunk : (remote, r) ∈ used) (looked : c.lookup remote r now = .ok (some data, c')) :
    lastStored calls (chunkKey remote r) = some data := by
  have start : c₀.Agrees used fun _ => none :=
    ⟨fun s mem => by simp [fresh] at mem,
      fun t tier b used_b bytes stamp file => absurd file (clean t tier b used_b bytes stamp), named⟩
  have agrees := Agrees.run calls (fresh ▸ Memory.sound_empty limit) start covered
    (fun remote r data now mem => by rw [fresh]; exact fits remote r data now mem) ran counted
  exact (agrees.lookup looked chunk).2 data rfl

/-- A cache with a disk tier and room in memory for one four-byte chunk: two stores of the
first chunk of the root file, then one of its second chunk, which pushes the first out of
memory.  A lookup of the first chunk then reads its file, which holds the data stored
last. -/
theorem later_store_read_back_from_disk :
    ∃ c c', runCalls { memory := { limit := 4 }, ttl := 60, tier := some { base := ["cache"], limit := none } }
        [.store "" ⟨0, 3⟩ [1, 2, 3, 4] 0, .store "" ⟨0, 3⟩ [5, 6, 7, 8] 1, .store "" ⟨4, 7⟩ [9, 9, 9, 9] 2] =
          .ok c ∧
      c.lookup "" ⟨0, 3⟩ 3 = .ok (some [5, 6, 7, 8], c') ∧
      lastStored [.store "" ⟨0, 3⟩ [1, 2, 3, 4] 0, .store "" ⟨0, 3⟩ [5, 6, 7, 8] 1, .store "" ⟨4, 7⟩ [9, 9, 9, 9] 2]
        (chunkKey "" ⟨0, 3⟩) = some [5, 6, 7, 8] := by
  obtain ⟨c, ran, counted, c', looked⟩ : ∃ c, runCalls
      { memory := { limit := 4 }, ttl := 60, tier := some { base := ["cache"], limit := none } }
      [.store "" ⟨0, 3⟩ [1, 2, 3, 4] 0, .store "" ⟨0, 3⟩ [5, 6, 7, 8] 1, .store "" ⟨4, 7⟩ [9, 9, 9, 9] 2] = .ok c ∧
        c.counters.diskErrors = 0 ∧ ∃ c', c.lookup "" ⟨0, 3⟩ 3 = .ok (some [5, 6, 7, 8], c') := by
    rw [runCalls_cons_ok _ (by unfold Call.apply Tiered.store; simp only [chunkFile_root]; rfl),
      runCalls_cons_ok _ (by unfold Call.apply Tiered.store; simp only [chunkFile_root]; rfl),
      runCalls_cons_ok _ (by unfold Call.apply Tiered.store; simp only [chunkFile_root]; rfl)]
    refine ⟨_, rfl, rfl, ?_⟩
    unfold Tiered.lookup Tiered.lookupDisk
    simp only [chunkFile_root]
    exact ⟨_, rfl⟩
  have used : ("", (⟨0, 3⟩ : ByteRange)) ∈ [("", (⟨0, 3⟩ : ByteRange)), ("", ⟨4, 7⟩)] := by simp
  have clean : ∀ t, some ({ base := ["cache"], limit := none } : DiskTier) = some t →
      ∀ chunk ∈ [("", (⟨0, 3⟩ : ByteRange)), ("", ⟨4, 7⟩)], ∀ bytes stamp,
        ({} : Disk).find? (t.base ++ chunkFile chunk.1 chunk.2) ≠ some (.file bytes stamp) := by
    intro t _ chunk _ bytes stamp
    simp [Disk.find?]
  have covered : ∀ call ∈ [Call.store "" ⟨0, 3⟩ [1, 2, 3, 4] 0, .store "" ⟨0, 3⟩ [5, 6, 7, 8] 1,
      .store "" ⟨4, 7⟩ [9, 9, 9, 9] 2], call.chunk ∈ [("", (⟨0, 3⟩ : ByteRange)), ("", ⟨4, 7⟩)] := by
    simp [Call.chunk]
  have fits : ∀ remote r data now, Call.store remote r data now ∈ [Call.store "" ⟨0, 3⟩ [1, 2, 3, 4] 0,
      .store "" ⟨0, 3⟩ [5, 6, 7, 8] 1, .store "" ⟨4, 7⟩ [9, 9, 9, 9] 2] → data.length ≤ 4 := by
    intro remote r data now mem
    simp only [List.mem_cons, Call.store.injEq, List.not_mem_nil, or_false] at mem
    rcases mem with ⟨-, -, rfl, -⟩ | ⟨-, -, rfl, -⟩ | ⟨-, -, rfl, -⟩ <;> decide
  exact ⟨c, c', ran, looked, lookup_returns_last_store rfl clean
    (fun _ _ => named_of_remote "" (by simp)) covered fits ran counted used looked⟩

/-- The remotes `.` and `""` name one chunk file below the cache directory under two keys.
After storing a chunk of each, a lookup of the first misses memory (it holds four bytes)
and reads the file, which holds the second chunk: not the data stored last under the
first's key. -/
theorem aliased_remotes_share_a_file :
    ∃ c c', runCalls { memory := { limit := 4 }, ttl := 60, tier := some { base := ["cache"], limit := none } }
        [.store "." ⟨0, 3⟩ [1, 2, 3, 4] 0, .store "" ⟨0, 3⟩ [5, 6, 7, 8] 0] = .ok c ∧
      c.lookup "." ⟨0, 3⟩ 0 = .ok (some [5, 6, 7, 8], c') ∧
      lastStored [.store "." ⟨0, 3⟩ [1, 2, 3, 4] 0, .store "" ⟨0, 3⟩ [5, 6, 7, 8] 0] (chunkKey "." ⟨0, 3⟩) =
        some [1, 2, 3, 4] := by
  rw [runCalls_cons_ok _ (by unfold Call.apply Tiered.store; simp only [chunkFile_dot]; rfl),
    runCalls_cons_ok _ (by unfold Call.apply Tiered.store; simp only [chunkFile_root]; rfl)]
  refine ⟨_, ?_, rfl, ?_, by decide⟩
  rotate_left
  unfold Tiered.lookup Tiered.lookupDisk
  simp only [chunkFile_dot]
  rfl

end Tiered

end ChunkProxy.Cache
