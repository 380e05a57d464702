import ChunkProxy.Proofs.WriterBooks
import ChunkProxy.Proofs.MemoryTier
/-!
# A chunk file read back

The writer puts a chunk on disk as one file: its expiry, eight bytes little-endian, then
the chunk's bytes, written aside and renamed into place (`writeChunk`).  A lookup that
misses memory reads that file back (`Tiered.readChunk`): it takes the chunk when the file
is as long as the range plus the expiry and the expiry lies ahead, brings it back into
memory with that expiry, and otherwise deletes the file.

Reading back needs the file and the way to it.  `Disk.Holding d p bytes` says the file at
`p` holds `bytes` and every directory on the way to it is one, so it can be read and
removed (`Holding.readFile`, `Holding.removeFile`).  A write that the writer does not
count as a disk error leaves the chunk file so (`writeChunk_holding`); removing other
files keeps it (`Holding.removeFile_other`), and so does the disk bound when the file
alone fits within it (`evictFrom_holding`).  `readChunk_of_holding` then says what a read
finds, and `chunk_file_read_back` puts the pieces together for a lookup right after the
writer has taken the chunk: the expiry read is the one written, for every expiry a
64-bit word holds.
-/

namespace ChunkProxy.Cache

set_option autoImplicit false

namespace Disk

/-! ## The way to a file -/

/-- Every directory on the way to a path is one. -/
def Walkable (d : Disk) (p : List String) : Prop := ∀ a ∈ ancestors p, d.find? a = some .dir

/-- The file at a path holds some bytes, and the way to it is open. -/
structure Holding (d : Disk) (p : List String) (bytes : List UInt8) : Prop where
  walkable : d.Walkable p
  file : ∃ stamp, d.find? p = some (.file bytes stamp)

theorem walk_ok {d : Disk} {p : List String} (reach : d.Walkable p) : d.walk p = .ok () := by
  unfold walk
  unfold Walkable at reach
  generalize ancestors p = dirs at reach ⊢
  induction dirs with
  | nil => rfl
  | cons a rest ih =>
    have here : d.find? a = some .dir := reach a List.mem_cons_self
    simp only [List.forM, here]
    exact ih fun b later => reach b (List.mem_cons_of_mem a later)

/-- The directories on the way to a file in `parent` are the leading parts of `parent`. -/
theorem mem_ancestors_snoc {parent : List String} {leaf : String} {a : List String}
    (mem : a ∈ ancestors (parent ++ [leaf])) : ∃ k < parent.length, a = parent.take (k + 1) := by
  simp only [ancestors, List.mem_map, List.mem_range, List.length_append, List.length_singleton,
    Nat.add_sub_cancel] at mem
  obtain ⟨k, below, rfl⟩ := mem
  exact ⟨k, below, List.take_append_of_le_length (by omega)⟩

/-- No directory on the way to a file in `parent` is a file in `parent`. -/
theorem ancestor_ne_snoc {parent : List String} {leaf other : String} {a : List String}
    (mem : a ∈ ancestors (parent ++ [leaf])) : a ≠ parent ++ [other] := by
  obtain ⟨k, below, rfl⟩ := mem_ancestors_snoc mem
  intro same
  have := congrArg List.length same
  simp only [List.length_take, List.length_append, List.length_singleton] at this
  omega

theorem snoc_ne_nil (parent : List String) (leaf : String) : parent ++ [leaf] ≠ [] := by simp

theorem find?_erase_self (d : Disk) {p : List String} (nonempty : p ≠ []) : (d.erase p).find? p = none := by
  rw [find?_erase, if_pos ⟨rfl, nonempty⟩]

/-- A removal that succeeds removed a file that was there. -/
theorem removeFile_ok {d d' : Disk} {q : List String} (removed : d.removeFile q = .ok d') :
    (∃ bytes stamp, d.find? q = some (.file bytes stamp)) ∧ d' = d.erase q := by
  unfold removeFile at removed
  cases walked : d.walk q with
  | error e => simp [walked, bind, Except.bind] at removed
  | ok u =>
    simp only [walked, bind, Except.bind] at removed
    split at removed
    · rename_i bytes stamp at_q
      cases removed
      exact ⟨⟨bytes, stamp, at_q⟩, rfl⟩
    · simp [throw, throwThe, MonadExceptOf.throw] at removed
    · simp [throw, throwThe, MonadExceptOf.throw] at removed

theorem Holding.readFile {d : Disk} {p : List String} {bytes : List UInt8} (held : d.Holding p bytes) :
    d.readFile p = .ok bytes := by
  obtain ⟨stamp, at_p⟩ := held.file
  simp only [Disk.readFile, walk_ok held.walkable, at_p, bind, Except.bind, pure, Except.pure]

theorem Holding.removeFile {d : Disk} {p : List String} {bytes : List UInt8} (held : d.Holding p bytes) :
    d.removeFile p = .ok (d.erase p) := by
  obtain ⟨stamp, at_p⟩ := held.file
  simp only [Disk.removeFile, walk_ok held.walkable, at_p, bind, Except.bind, pure, Except.pure]

/-- Removing another file keeps a file held, and the way to it: a directory on the way is no
file that could be removed. -/
theorem Holding.removeFile_other {d d' : Disk} {p q : List String} {bytes : List UInt8} (held : d.Holding p bytes)
    (other : q ≠ p) (removed : d.removeFile q = .ok d') : d'.Holding p bytes := by
  obtain ⟨⟨gone, stamp, at_q⟩, rfl⟩ := removeFile_ok removed
  refine ⟨fun a mem => ?_, ?_⟩
  · have dir := held.walkable a mem
    rw [find?_erase, if_neg]
    · exact dir
    · rintro ⟨rfl, -⟩
      rw [dir] at at_q
      cases at_q
  · obtain ⟨stamp', at_p⟩ := held.file
    refine ⟨stamp', ?_⟩
    rw [find?_erase, if_neg (fun same => other same.1.symm)]
    exact at_p

/-! ## Writing a chunk -/

/-- Putting a directory at `a` leaves one at `a` and at every path that had one. -/
theorem find?_put_dir (d : Disk) {a q : List String} (dir : q = a ∨ d.find? q = some .dir) :
    (d.put a .dir).find? q = some .dir := by
  rw [find?_put]
  split
  · rfl
  · rename_i not_put
    rcases dir with rfl | dir
    · -- nothing is put at the root, which is a directory
      simp only [true_and, not_not] at not_put
      subst not_put
      rfl
    · exact dir

/-- Creating the directories of a path keeps every directory there was and makes each
leading part of the path one. -/
theorem createDirAll_dirs {d d' : Disk} {p : List String} (created : d.createDirAll p = .ok d') :
    (∀ q, d.find? q = some .dir → d'.find? q = some .dir) ∧
      ∀ k < p.length, d'.find? (p.take (k + 1)) = some .dir := by
  unfold createDirAll at created
  have listed : ∀ k < p.length, p.take (k + 1) ∈ (List.range p.length).map fun k => p.take (k + 1) :=
    fun k below => List.mem_map.mpr ⟨k, List.mem_range.mpr below, rfl⟩
  suffices made : (∀ q, d.find? q = some .dir → d'.find? q = some .dir) ∧
      ∀ a ∈ (List.range p.length).map (fun k => p.take (k + 1)), d'.find? a = some .dir from
    ⟨made.1, fun k below => made.2 _ (listed k below)⟩
  generalize (List.range p.length).map (fun k => p.take (k + 1)) = dirs at created ⊢
  induction dirs generalizing d with
  | nil =>
    simp only [List.foldlM_nil, pure, Except.pure, Except.ok.injEq] at created
    subst created
    exact ⟨fun q dir => dir, fun a mem => absurd mem List.not_mem_nil⟩
  | cons a rest ih =>
    simp only [List.foldlM_cons, bind, Except.bind] at created
    split at created
    · simp at created
    · rename_i d₁ step
      -- the first step leaves `a` a directory and keeps the others
      have first : (∀ q, d.find? q = some .dir → d₁.find? q = some .dir) ∧ d₁.find? a = some .dir := by
        split at step
        · rename_i here
          simp only [pure, Except.pure, Except.ok.injEq] at step
          subst step
          exact ⟨fun q dir => dir, here⟩
        · simp [throw, throwThe, MonadExceptOf.throw] at step
        · simp only [pure, Except.pure, Except.ok.injEq] at step
          subst step
          exact ⟨fun q dir => find?_put_dir d (.inr dir), find?_put_dir d (.inl rfl)⟩
      obtain ⟨kept, rest_dirs⟩ := ih created
      refine ⟨fun q dir => kept q (first.1 q dir), fun b mem => ?_⟩
      rcases List.mem_cons.mp mem with rfl | later
      · exact kept b first.2
      · exact rest_dirs b later

/-- A chunk write the writer counts as done leaves the chunk file holding the expiry and
the bytes, with the way to it open. -/
theorem writeChunk_holding {d : Disk} {parent : List String} {leaf : String} {data : List UInt8} {expires : Time}
    (written : (writeChunk d (parent ++ [leaf]) data expires).2 = true) :
    (writeChunk d (parent ++ [leaf]) data expires).1.Holding (parent ++ [leaf]) (le8 (epochSecs expires) ++ data) := by
  unfold writeChunk at written ⊢
  simp only [List.dropLast_concat, List.getLastD_concat] at written ⊢
  cases created : d.createDirAll parent with
  | error e => simp [created] at written
  | ok d₁ =>
    simp only [created] at written ⊢
    cases aside : d₁.writeFile (parent ++ [leaf ++ ".partial"]) (le8 (epochSecs expires) ++ data) with
    | error e => simp [aside] at written
    | ok d₂ =>
      simp only [aside] at written ⊢
      cases renamed : d₂.rename (parent ++ [leaf ++ ".partial"]) (parent ++ [leaf]) with
      | error e => simp [renamed] at written
      | ok d₃ =>
        simp only
        obtain ⟨moved, stamp, at_temp, rfl⟩ := rename_ok renamed
        have put_aside := writeFile_ok aside
        -- the bytes moved are the ones written aside
        have same : moved = le8 (epochSecs expires) ++ data := by
          rw [put_aside, find?_put, if_pos ⟨rfl, snoc_ne_nil _ _⟩] at at_temp
          simp only [Option.some.injEq, Entry.file.injEq] at at_temp
          exact at_temp.1.symm
        subst same
        refine ⟨fun a mem => ?_, stamp, by rw [find?_put, if_pos ⟨rfl, snoc_ne_nil _ _⟩]⟩
        obtain ⟨k, below, rfl⟩ := mem_ancestors_snoc mem
        have dir := (createDirAll_dirs created).2 k below
        rw [find?_put, if_neg (fun on => ancestor_ne_snoc mem on.1), find?_erase,
          if_neg (fun on => ancestor_ne_snoc mem on.1), put_aside, find?_put,
          if_neg (fun on => ancestor_ne_snoc mem on.1), find?_clock]
        exact dir

end Disk

/-- The root has no plain segments: a chunk of the file at `""` lies right below the cache
directory. -/
theorem plainSegments_empty : plainSegments "" = [] := by
  rw [plainSegments, String.splitOn, String.splitOnAux]
  decide

theorem chunkFile_root (r : ByteRange) : chunkFile "" r = [rangeName r] := by
  rw [chunkFile, plainSegments_empty, List.nil_append]

namespace Books

/-- The bound keeps the newest file when that file alone fits within it: only older files are
taken off the queue, and removing them keeps it. -/
theorem evictFrom_holding {limit : Nat} {p : List String} {bytes : List UInt8} :
    ∀ (older : List (List String)) (sizes : List (List String × Nat)) (total : Nat) (d : Disk) (n : Nat),
      (⟨sizes, older ++ [p], total⟩ : Books).InStep → (sizes.lookup p).getD 0 ≤ limit → d.Holding p bytes →
        (evictFrom limit (older ++ [p]) sizes total d n).2.1.Holding p bytes
  | [], sizes, total, d, n, inStep, room, held => by
    -- the file is all that is queued, and it fits
    have whole : total = (sizes.lookup p).getD 0 + 0 := inStep.total
    rw [List.nil_append]
    unfold evictFrom
    rw [if_pos (by omega)]
    exact held
  | q :: older, sizes, total, d, n, inStep, room, held => by
    have other : q ≠ p := fun same => (List.nodup_cons.mp inStep.nodup).1 (by simp [same])
    obtain ⟨popped, -⟩ := inStep.pop
    have room' : ((sizes.filter (·.1 != q)).lookup p).getD 0 ≤ limit := by
      rw [lookup_filter_ne, if_neg (Ne.symm other)]
      exact room
    rw [List.cons_append]
    unfold evictFrom
    split
    · exact held
    · split
      · rename_i d' removed
        exact evictFrom_holding older _ _ d' (n + 1) popped room' (held.removeFile_other other removed)
      · exact evictFrom_holding older _ _ d n popped room' held

theorem evict_holding {b : Books} (inStep : b.InStep) {limit : Nat} {older : List (List String)}
    {p : List String} (queue : b.order = older ++ [p]) (room : b.sizeOf p ≤ limit) {d : Disk} {bytes : List UInt8}
    (held : d.Holding p bytes) : (b.evict limit d).2.1.Holding p bytes := by
  obtain ⟨sizes, order, total⟩ := b
  dsimp only at queue
  subst queue
  exact evictFrom_holding older sizes total d 0 inStep room held

end Books

namespace DiskTier

/-- Applying the bound after recording a file as the newest keeps it, when it fits alone and the
books were in step. -/
theorem evict_track_holding (t : DiskTier) (inStep : t.books.InStep) {d : Disk} {p : List String}
    {bytes : List UInt8} {size : Nat} (room : ∀ limit, t.limit = some limit → size ≤ limit)
    (held : d.Holding p bytes) : ((t.track p size).evict d).2.1.Holding p bytes := by
  have tracked := (Books.InStep.track p size inStep).1
  have sized : (t.books.track p size).sizeOf p = size := by rw [Books.track_sizeOf, if_pos rfl]
  unfold evict
  split
  · rename_i limit bound
    exact Books.evict_holding tracked (Books.track_order p size inStep) (by rw [sized]; exact room limit bound) held
  · exact held

end DiskTier

namespace Tiered

/-- The writer counts a disk error exactly when the write fails. -/
theorem writeBehind_written {c : Tiered} {t : DiskTier} {path : List String} {data : List UInt8} {expires : Time}
    (counted : (c.writeBehind t path data expires).counters.diskErrors = c.counters.diskErrors) :
    (writeChunk c.disk path data expires).2 = true := by
  unfold writeBehind at counted
  revert counted
  generalize writeChunk c.disk path data expires = out
  obtain ⟨disk, ok⟩ := out
  cases ok with
  | false => intro counted; simp at counted
  | true => intro _; rfl

/-- A write that succeeds: the writer records the chunk file as the newest, applies the
bound, and counts the write and the files the bound removed. -/
theorem writeBehind_of_written {c : Tiered} {t : DiskTier} {path : List String} {data : List UInt8}
    {expires : Time} (written : (writeChunk c.disk path data expires).2 = true) :
    c.writeBehind t path data expires =
      { c with disk := ((t.track path (data.length + expiryLength)).evict (writeChunk c.disk path data expires).1).2.1,
               tier := some ((t.track path (data.length + expiryLength)).evict (writeChunk c.disk path data expires).1).1,
               counters := { c.counters with
                 diskWrites := c.counters.diskWrites + 1,
                 diskEvictions := c.counters.diskEvictions +
                   ((t.track path (data.length + expiryLength)).evict (writeChunk c.disk path data expires).1).2.2 } } := by
  unfold writeBehind
  cases out : writeChunk c.disk path data expires with
  | mk disk ok =>
    rw [out] at written
    subst written
    rfl

/-- After a write it does not count as an error, with its books in step and under a bound the
chunk file fits alone, the writer's disk holds the chunk file below the same directory. -/
theorem writeBehind_holding {c : Tiered} {t : DiskTier} {parent : List String} {leaf : String}
    {data : List UInt8} {expires : Time}
    (counted : (c.writeBehind t (parent ++ [leaf]) data expires).counters.diskErrors = c.counters.diskErrors)
    (inStep : t.books.InStep) (room : ∀ limit, t.limit = some limit → data.length + expiryLength ≤ limit) :
    ∃ t', (c.writeBehind t (parent ++ [leaf]) data expires).tier = some t' ∧ t'.base = t.base ∧
      (c.writeBehind t (parent ++ [leaf]) data expires).disk.Holding (parent ++ [leaf])
        (le8 (epochSecs expires) ++ data) := by
  have written := writeBehind_written counted
  rw [writeBehind_of_written written]
  exact ⟨_, rfl, DiskTier.evict_base _ _, DiskTier.evict_track_holding t inStep room (Disk.writeChunk_holding written)⟩

/-- A read of a chunk file that is held: the chunk and the start of its recorded second when the
file is as long as the range plus the expiry and that time lies ahead, and otherwise nothing,
with the file removed. -/
theorem readChunk_of_holding {c : Tiered} {path : List String} {r : ByteRange} (now : Time) {bytes : List UInt8}
    (held : c.disk.Holding path bytes) (ordered : r.first ≤ r.last)
    (fits : r.last - r.first + 1 + expiryLength < wordBound) (readable : readLe8 bytes ≤ timeLimit) :
    c.readChunk path r now =
      if bytes.length = r.last - r.first + 1 + expiryLength ∧ now < ofEpochSecs (readLe8 bytes) then
        .ok (some (bytes.drop expiryLength, ofEpochSecs (readLe8 bytes)), c)
      else .ok (none, { c with disk := c.disk.erase path }) := by
  have sized : r.size = .ok (r.last - r.first + 1) := by
    rw [ByteRange.size_of_le ordered (by omega), ByteRange.length]
    congr 1
    omega
  have small : ¬(r.last - r.first + 1 + expiryLength ≥ wordBound) := by omega
  have clock : ¬(readLe8 bytes > timeLimit) := Nat.not_lt.mpr readable
  unfold readChunk
  simp only [held.readFile, held.removeFile, sized, small, clock, bind, Except.bind, if_false,
    Except.toOption, Option.getD_some, bne_iff_ne, ne_eq]
  by_cases whole : bytes.length = r.last - r.first + 1 + expiryLength
  · by_cases live : now < ofEpochSecs (readLe8 bytes)
    · simp [whole, live, Time.not_le.mpr live, pure, Except.pure]
    · simp [whole, live, Time.not_lt.mp live, pure, Except.pure]
  · simp [whole, pure, Except.pure]

/-- A lookup that misses memory goes to the disk, with memory as the miss left it. -/
theorem lookup_of_miss {c : Tiered} {remote : String} {r : ByteRange} {now : Time}
    (miss : (c.memory.lookup (chunkKey remote r) now).1 = none) :
    c.lookup remote r now = ({ c with memory := (c.memory.lookup (chunkKey remote r) now).2 } : Tiered).lookupDisk remote r now := by
  unfold lookup lookupMemory
  generalize c.memory.lookup (chunkKey remote r) now = out at miss ⊢
  obtain ⟨hit, memory⟩ := out
  simp only at miss
  subst miss
  rfl

/-- A lookup right after the writer took a chunk, of the chunk's range below the cache
directory, with an expiry the clock holds, in a write the writer did not count as a disk
error, with its books in step, under a disk bound the chunk file fits alone (or none), and
that misses memory.  The chunk file records the expiry as its second since the epoch, zero for
an expiry before the epoch.  The lookup returns the chunk exactly when the chunk is as long
as its range and the start of that second lies ahead, and then brings it back into memory with
that time as its expiry; otherwise it returns nothing and the chunk file is gone.  The second
read back is the one written, for every reading of the clock. -/
theorem chunk_file_read_back {c : Tiered} {t : DiskTier} {remote : String} {r : ByteRange}
    {data : List UInt8} {expires now : Time} (ordered : r.first ≤ r.last)
    (fits : r.last - r.first + 1 + expiryLength < wordBound) (clock : expires.secs ≤ timeLimit)
    (inStep : t.books.InStep)
    (counted : (c.writeBehind t (t.base ++ chunkFile remote r) data expires).counters.diskErrors =
      c.counters.diskErrors)
    (room : ∀ limit, t.limit = some limit → data.length + expiryLength ≤ limit)
    (miss : (c.memory.lookup (chunkKey remote r) now).1 = none) :
    (∀ x : Time, x.secs ≤ timeLimit → ∀ rest, readLe8 (le8 (epochSecs x) ++ rest) = epochSecs x) ∧
    (expires < ofEpochSecs 0 → epochSecs expires = 0) ∧
    (ofEpochSecs 0 ≤ expires →
      ofEpochSecs (epochSecs expires) ≤ expires ∧ expires < ofEpochSecs (epochSecs expires + 1)) ∧
    ∃ res c', (c.writeBehind t (t.base ++ chunkFile remote r) data expires).lookup remote r now = .ok (res, c') ∧
      (data.length = r.last - r.first + 1 ∧ now < ofEpochSecs (epochSecs expires) →
        res = some data ∧
          c'.memory = (c.memory.lookup (chunkKey remote r) now).2.store (chunkKey remote r) data
            (ofEpochSecs (epochSecs expires))) ∧
      (¬(data.length = r.last - r.first + 1 ∧ now < ofEpochSecs (epochSecs expires)) →
        res = none ∧ ∀ t', c'.tier = some t' → c'.disk.find? (t'.base ++ chunkFile remote r) = none) := by
  have recorded : ∀ x : Time, x.secs ≤ timeLimit → epochSecs x < wordBound := fun x within =>
    Nat.lt_of_le_of_lt (epochSecs_le within) (by decide)
  refine ⟨fun x within rest => readLe8_le8 _ rest (recorded x within), epochSecs_of_lt_epoch,
    ofEpochSecs_epochSecs, ?_⟩
  -- the chunk file is a file in the directory of the path's plain segments
  have shape : t.base ++ chunkFile remote r = (t.base ++ plainSegments remote) ++ [rangeName r] := by
    simp [chunkFile]
  rw [shape] at counted ⊢
  obtain ⟨t', tier', base', held⟩ := writeBehind_holding counted inStep room
  have kept := writeBehind_memory c t ((t.base ++ plainSegments remote) ++ [rangeName r]) data expires
  generalize c.writeBehind t ((t.base ++ plainSegments remote) ++ [rangeName r]) data expires = c₁ at tier' held kept
  rw [← kept] at miss ⊢
  rw [lookup_of_miss miss]
  -- what the file holds: the second of the expiry, then the chunk
  have expiry : readLe8 (le8 (epochSecs expires) ++ data) = epochSecs expires :=
    readLe8_le8 _ data (recorded expires clock)
  have chunk : (le8 (epochSecs expires) ++ data).drop expiryLength = data := List.drop_left' (length_le8 _)
  have sized : (le8 (epochSecs expires) ++ data).length = data.length + expiryLength := by
    rw [List.length_append, length_le8, Nat.add_comm]
  have read := readChunk_of_holding (c := { c₁ with memory := (c₁.memory.lookup (chunkKey remote r) now).2 })
    now held ordered fits (by rw [expiry]; exact epochSecs_le clock)
  have at_path : t'.base ++ chunkFile remote r = (t.base ++ plainSegments remote) ++ [rangeName r] := by
    rw [base', shape]
  rw [expiry, chunk, sized] at read
  simp only [Nat.add_right_cancel_iff, tier'] at read
  unfold lookupDisk
  simp only [tier', at_path, read]
  by_cases taken : data.length = r.last - r.first + 1 ∧ now < ofEpochSecs (epochSecs expires)
  · -- the chunk comes back and is stored in memory with the start of its recorded second
    simp only [if_pos taken]
    exact ⟨_, _, rfl, fun _ => ⟨rfl, rfl⟩, fun not_taken => absurd taken not_taken⟩
  · -- the file is discarded
    simp only [if_neg taken]
    refine ⟨_, _, rfl, fun now_taken => absurd now_taken taken, fun _ => ⟨rfl, fun t'' same => ?_⟩⟩
    simp only [Option.some.injEq] at same
    subst same
    rw [at_path]
    exact Disk.find?_erase_self _ (Disk.snoc_ne_nil _ _)

/-- Four bytes of the file at the root, kept below `cache` until half a second past second 60:
the writer records second 60, and a lookup a tenth of a second before it reads the chunk back
with that second as its expiry. -/
theorem four_byte_chunk_read_back :
    (Tiered.writeBehind { memory := { limit := 16 }, ttl := 60, tier := some { base := ["cache"], limit := none } }
      { base := ["cache"], limit := none } (["cache"] ++ chunkFile "" ⟨0, 3⟩) [1, 2, 3, 4]
      ⟨60, ⟨500000000, by decide⟩⟩).counters.diskErrors = 0 ∧
    ∃ res c', (Tiered.writeBehind { memory := { limit := 16 }, ttl := 60, tier := some { base := ["cache"], limit := none } }
      { base := ["cache"], limit := none } (["cache"] ++ chunkFile "" ⟨0, 3⟩) [1, 2, 3, 4]
      ⟨60, ⟨500000000, by decide⟩⟩).lookup "" ⟨0, 3⟩ ⟨59, ⟨900000000, by decide⟩⟩ = .ok (res, c') ∧
      res = some [1, 2, 3, 4] ∧ c'.memory.slots.map (·.expires) = [60] := by
  have counted : (Tiered.writeBehind { memory := { limit := 16 }, ttl := 60, tier := some { base := ["cache"], limit := none } }
      { base := ["cache"], limit := none } (["cache"] ++ chunkFile "" ⟨0, 3⟩) [1, 2, 3, 4]
      ⟨60, ⟨500000000, by decide⟩⟩).counters.diskErrors = 0 := by
    rw [chunkFile_root]
    decide
  have miss : (({ limit := 16 } : Memory).lookup (chunkKey "" ⟨0, 3⟩) ⟨59, ⟨900000000, by decide⟩⟩).1 = none := rfl
  obtain ⟨-, -, -, res, c', looked, taken, -⟩ := chunk_file_read_back (by decide) (by decide) (by decide)
    Books.inStep_empty counted (fun _ unbounded => by cases unbounded) miss
  obtain ⟨found, memory⟩ := taken ⟨by decide, by decide⟩
  refine ⟨counted, res, c', looked, found, ?_⟩
  rw [memory]
  rfl

/-- The same four bytes, as long as their range and live, are not read back when the writer
keeps no file of them: a disk bound of four bytes deletes the twelve-byte file at once, and a
directory where the file is written aside makes the write fail. -/
theorem taken_chunk_not_read_back :
    (∃ c', (Tiered.writeBehind
        { memory := { limit := 16 }, ttl := 60, tier := some { base := ["cache"], limit := some 4 } }
        { base := ["cache"], limit := some 4 } (["cache"] ++ chunkFile "" ⟨0, 3⟩) [1, 2, 3, 4] 60).lookup
          "" ⟨0, 3⟩ 0 = .ok (none, c')) ∧
    (∃ c', (Tiered.writeBehind
        { memory := { limit := 16 }, ttl := 60, tier := some { base := ["cache"], limit := none },
          disk := { entries := [(["cache"], .dir), (["cache", "0-3.partial"], .dir)] } }
        { base := ["cache"], limit := none } (["cache"] ++ chunkFile "" ⟨0, 3⟩) [1, 2, 3, 4] 60).lookup
          "" ⟨0, 3⟩ 0 = .ok (none, c')) := by
  unfold Tiered.lookup Tiered.lookupDisk
  simp only [chunkFile_root]
  exact ⟨⟨_, rfl⟩, ⟨_, rfl⟩⟩

end Tiered

end ChunkProxy.Cache
