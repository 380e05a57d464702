import ChunkProxy.Proofs.LatestStore
/-!
# The disk writer's record over a run

The writer's books (`Books`: sizes, queue and total, kept in step as `Proofs.WriterBooks`
shows) follow a history: the files found when the cache opens, oldest modification first, then
every chunk file whose write the writer counted (`writeLog`).  `DiskTier.Ledger t history`
says the books are in step and their record is a suffix of the history's latest writes
(`latestWrites`: each path once, with the size of its last write, in the order of those last
writes), within the bound, and all of them when there is no bound.  So each path is queued
once, with the size of its last write, the total is the sum of those sizes, and a file is
evicted only after every file whose last write came before its own.  Every application of the
bound keeps the longest suffix that fits (`Trims`): it deletes the oldest files and no more of
them than it must.

`disk_writer_record` holds this of the cache opened on any directory with one entry per path,
after any stores and lookups: the files found are sorted by modification stamp and trimmed, and
the books then follow every write the writer counts; the next write is recorded and trimmed
when it succeeds, and leaves the books as they were when it fails.
-/

namespace ChunkProxy.Cache

set_option autoImplicit false

/-! ## Latest writes -/

/-- The writes of a history that no later write of the same path replaces: each path once,
with the size of its last write, in the order of those last writes. -/
def latestWrites : List (List String × Nat) → List (List String × Nat)
  | [] => []
  | w :: later => if later.any (·.1 == w.1) then latestWrites later else w :: latestWrites later

theorem mem_latestWrites {w : List String × Nat} :
    ∀ {h : List (List String × Nat)}, w ∈ latestWrites h → w ∈ h
  | [], mem => by simp [latestWrites] at mem
  | x :: later, mem => by
    unfold latestWrites at mem
    split at mem
    · exact List.mem_cons_of_mem _ (mem_latestWrites mem)
    · rcases List.mem_cons.mp mem with rfl | rest
      · exact List.mem_cons_self
      · exact List.mem_cons_of_mem _ (mem_latestWrites rest)

/-- The latest writes name each path once. -/
theorem nodup_latestWrites : ∀ h : List (List String × Nat), ((latestWrites h).map (·.1)).Nodup
  | [] => by simp [latestWrites]
  | w :: later => by
    unfold latestWrites
    split
    · exact nodup_latestWrites later
    · rename_i fresh
      refine List.nodup_cons.mpr ⟨fun mem => fresh ?_, nodup_latestWrites later⟩
      obtain ⟨x, inside, same⟩ := List.mem_map.mp mem
      exact List.any_eq_true.mpr ⟨x, mem_latestWrites inside, by simp [same]⟩

/-- A history that writes each path once is its own latest writes. -/
theorem latestWrites_of_nodup : ∀ {h : List (List String × Nat)}, (h.map (·.1)).Nodup → latestWrites h = h
  | [], _ => rfl
  | w :: later, distinct => by
    rw [List.map_cons, List.nodup_cons] at distinct
    have fresh : later.any (·.1 == w.1) = false := by
      simpa using fun x mem same => distinct.1 (List.mem_map.mpr ⟨x, mem, same⟩)
    rw [latestWrites, if_neg (by simp [fresh]), latestWrites_of_nodup distinct.2]

/-- A new write replaces the older write of its path and comes last. -/
theorem latestWrites_append_write (w : List String × Nat) :
    ∀ h : List (List String × Nat), latestWrites (h ++ [w]) = (latestWrites h).filter (·.1 != w.1) ++ [w]
  | [] => by simp [latestWrites]
  | x :: later => by
    have ih := latestWrites_append_write w later
    by_cases replaced : later.any (·.1 == x.1) = true
    · simp [latestWrites, replaced, ih]
    · by_cases same : w.1 = x.1
      · simp [latestWrites, replaced, same, ih]
      · simp [latestWrites, replaced, ih, same, Ne.symm same]

/-- Recording files one after another from books that follow a history: the books stay in
step and follow the history extended by the files. -/
theorem Books.InStep.trackAll {b : Books} (inStep : b.InStep) {history : List (List String × Nat)}
    (follows : b.record = latestWrites history) :
    ∀ files : List (List String × Nat),
      (files.foldl (fun b f => b.track f.1 f.2) b).InStep ∧
        (files.foldl (fun b f => b.track f.1 f.2) b).record = latestWrites (history ++ files)
  | [] => ⟨inStep, by rw [List.foldl_nil, List.append_nil, follows]⟩
  | f :: rest => by
    obtain ⟨tracked, record⟩ := inStep.track f.1 f.2
    have follows' : (b.track f.1 f.2).record = latestWrites (history ++ [f]) := by
      rw [record, follows, latestWrites_append_write]
    rw [List.foldl_cons, ← List.singleton_append, ← List.append_assoc]
    exact tracked.trackAll follows' rest

namespace DiskTier

/-! ## The ledger -/

/-- The books of a tier follow a history of recorded files: they are in step, and their
record is a suffix of the history's latest writes, within the bound, and all of them when
there is no bound. -/
structure Ledger (t : DiskTier) (history : List (List String × Nat)) : Prop where
  inStep : t.books.InStep
  recent : t.books.record <:+ latestWrites history
  within : ∀ limit, t.limit = some limit → t.books.total ≤ limit
  unbounded : t.limit = none → t.books.record = latestWrites history

/-- What the bound keeps of a suffix of the latest writes, all of them when there is no bound,
in books in step, is a record that follows the history. -/
theorem ledger_of_trims {t : DiskTier} {history files : List (List String × Nat)} (inStep : t.books.InStep)
    (recent : files <:+ latestWrites history) (whole : t.limit = none → files = latestWrites history)
    (trims : Trims t.limit files t.books.record) : t.Ledger history where
  inStep := inStep
  recent := trims.suffix.trans recent
  within := fun limit bound => by
    rw [bound] at trims
    rw [inStep.total]
    exact trims.2.1
  unbounded := fun bound => by
    rw [bound] at trims
    exact trims.trans (whole bound)

/-- Recording a file and applying the bound keeps the books in step with the history
extended by that file. -/
theorem Ledger.track_evict {t : DiskTier} {history : List (List String × Nat)} (ledger : t.Ledger history)
    (p : List String) (size : Nat) (d : Disk) :
    ((t.track p size).evict d).1.Ledger (history ++ [(p, size)]) := by
  obtain ⟨tracked, record⟩ := ledger.inStep.track p size
  have recent : (t.track p size).books.record <:+ latestWrites (history ++ [(p, size)]) := by
    rw [track_books, record, latestWrites_append_write]
    obtain ⟨older, same⟩ := ledger.recent.filter (·.1 != p)
    exact ⟨older, by rw [← same, List.append_assoc]⟩
  obtain ⟨kept, trims⟩ := evict_inStep (t := t.track p size) tracked d
  refine ledger_of_trims kept recent (fun bound => ?_) ?_
  · rw [evict_limit, track_limit] at bound
    rw [track_books, record, ledger.unbounded bound, latestWrites_append_write]
  · rw [evict_limit]
    exact trims

end DiskTier

/-! ## The files found when the cache opens -/

namespace Disk

/-- A disk that holds one entry per path. -/
def Distinct (d : Disk) : Prop := (d.entries.map (·.1)).Nodup

/-- A directory put where nothing is adds no file below any directory. -/
theorem filesBelow_put_dir {d : Disk} {a : List String} (absent : d.find? a = none) (base : List String) :
    (d.put a .dir).filesBelow base = d.filesBelow base := by
  have nonroot : a ≠ [] := by
    rintro rfl
    simp [find?] at absent
  have unlisted : ∀ e ∈ d.entries, e.1 ≠ a := by
    have := absent
    simp only [find?, List.isEmpty_iff, nonroot, if_false, List.lookup_eq_none_iff] at this
    exact fun e mem same => by simpa [same] using this e mem
  -- nothing is listed under `a`, so putting the directory only appends it
  have kept : d.entries.filter (·.1 != a) = d.entries :=
    List.filter_eq_self.mpr fun e mem => by simpa using unlisted e mem
  simp [put, erase, filesBelow, kept]

/-- Creating directories adds no file below any directory. -/
theorem filesBelow_createDirAll {d d' : Disk} {p : List String} (created : d.createDirAll p = .ok d')
    (base : List String) : d'.filesBelow base = d.filesBelow base :=
  createDirAll_induction (fun e => e.filesBelow base = d.filesBelow base) created rfl
    fun _ _ same absent => (filesBelow_put_dir absent base).trans same

/-- The files below a directory, the directory put back before their paths, are paths of the
disk's entries, in the entries' order. -/
theorem filesBelow_paths (d : Disk) (base : List String) :
    List.Sublist ((d.filesBelow base).map fun f => base ++ f.1) (d.entries.map (·.1)) := by
  unfold filesBelow
  generalize d.entries = entries
  induction entries with
  | nil => simp
  | cons e rest ih =>
    obtain ⟨p, entry⟩ := e
    cases entry with
    | dir => simpa using ih.cons p
    | file data stamp =>
      by_cases below : base <+: p ∧ base.length < p.length
      · have back : base ++ p.drop base.length = p := List.prefix_iff_eq_append.mp below.1
        simpa [List.filterMap_cons, below, back] using ih.cons_cons p
      · simpa [List.filterMap_cons, below] using ih.cons p

end Disk

namespace Tiered

/-- A cache opened on a directory records the files found below it that are no leftovers of
interrupted writes, oldest modification stamp first, in books in step, and applies the bound to
them. -/
theorem openOn_trims {disk : Disk} {base : List String} {baseText : String} {ttl limit : Nat}
    {bound : Option Nat} {c₀ : Tiered} (opened : openOn disk base baseText ttl limit bound = .ok c₀) :
    ∃ t₀, c₀.tier = some t₀ ∧ t₀.limit = bound ∧ t₀.books.InStep ∧
      Trims bound (latestWrites ((((disk.filesBelow base).filter fun f => !isLeftover (f.1.getLastD "")).mergeSort
        fun a b => a.2.2 ≤ b.2.2).map fun f => (base ++ f.1, f.2.1))) t₀.books.record := by
  unfold openOn at opened
  cases created : disk.createDirAll base with
  | error e => simp [created, bind, Except.bind, throw, throwThe, MonadExceptOf.throw] at opened
  | ok d₁ =>
    simp only [created, bind, Except.bind, pure, Except.pure, Except.ok.injEq] at opened
    subst opened
    rw [← Disk.filesBelow_createDirAll created base]
    -- the files found are recorded one after another from empty books
    obtain ⟨tracked, record⟩ := Books.inStep_empty.trackAll
      (show ({} : Books).record = latestWrites [] from rfl)
      ((((d₁.filesBelow base).filter fun f => !isLeftover (f.1.getLastD "")).mergeSort
        fun a b => a.2.2 ≤ b.2.2).map fun f => (base ++ f.1, f.2.1))
    simp only [List.foldl_map, List.nil_append] at tracked record
    obtain ⟨kept, trims⟩ := DiskTier.evict_inStep (t := { base, limit := bound, books := _ }) tracked _
    refine ⟨_, rfl, DiskTier.evict_limit _ _, kept, ?_⟩
    rw [← record]
    exact trims

/-! ## Writes and runs -/

/-- What the writer does with a write: a write that succeeds is counted, and its file recorded
as the newest before the bound is applied; a write that fails is counted as a disk error and
leaves the record. -/
theorem writeBehind_cases (c : Tiered) (t : DiskTier) (path : List String) (data : List UInt8)
    (expires : Time) :
    ((c.writeBehind t path data expires).tier =
        some ((t.track path (data.length + expiryLength)).evict (writeChunk c.disk path data expires).1).1 ∧
      (c.writeBehind t path data expires).counters.diskWrites = c.counters.diskWrites + 1) ∨
    ((c.writeBehind t path data expires).tier = c.tier ∧
      (c.writeBehind t path data expires).counters.diskWrites = c.counters.diskWrites ∧
      (c.writeBehind t path data expires).counters.diskErrors = c.counters.diskErrors + 1) := by
  unfold writeBehind
  cases writeChunk c.disk path data expires with
  | mk disk ok =>
    cases ok with
    | true => exact .inl ⟨rfl, rfl⟩
    | false => exact .inr ⟨rfl, rfl, rfl⟩

/-- The file a call had the writer record, with the size recorded: the chunk file of a store
whose write the writer counted. -/
def Call.recorded (c c' : Tiered) : Call → List (List String × Nat)
  | .store remote r data _ =>
    match c.tier with
    | some t =>
      if c.counters.diskWrites < c'.counters.diskWrites then
        [(t.base ++ chunkFile remote r, data.length + expiryLength)]
      else []
    | none => []
  | .lookup _ _ _ => []

/-- The files the writer recorded over a run of calls, in order. -/
def writeLog : Tiered → List Call → List (List String × Nat)
  | _, [] => []
  | c, call :: rest =>
    match call.apply c with
    | .ok c₁ => call.recorded c c₁ ++ writeLog c₁ rest
    | .error _ => []

theorem Call.recorded_store_of_lt {c c' : Tiered} {t : DiskTier} (tier : c.tier = some t) {remote : String}
    {r : ByteRange} {data : List UInt8} {now : Time} (counted : c.counters.diskWrites < c'.counters.diskWrites) :
    (Call.store remote r data now).recorded c c' = [(t.base ++ chunkFile remote r, data.length + expiryLength)] := by
  simp [Call.recorded, tier, counted]

theorem Call.recorded_store_of_le {c c' : Tiered} {remote : String} {r : ByteRange} {data : List UInt8}
    {now : Time} (counted : c'.counters.diskWrites ≤ c.counters.diskWrites) :
    (Call.store remote r data now).recorded c c' = [] := by
  simp only [Call.recorded]
  cases c.tier with
  | none => rfl
  | some t => simp [Nat.not_lt.mpr counted]

theorem writeLog_cons_ok {c c₁ : Tiered} {call : Call} (rest : List Call) (made : call.apply c = .ok c₁) :
    writeLog c (call :: rest) = call.recorded c c₁ ++ writeLog c₁ rest := by
  simp [writeLog, made]

/-- One call keeps the record in step with the history extended by what the call had the
writer record. -/
theorem Call.apply_ledger {c c' : Tiered} {t : DiskTier} {history : List (List String × Nat)}
    (tier : c.tier = some t) (ledger : t.Ledger history) {call : Call} (made : call.apply c = .ok c') :
    ∃ t', c'.tier = some t' ∧ t'.limit = t.limit ∧ t'.Ledger (history ++ call.recorded c c') := by
  cases call with
  | lookup remote r now =>
    obtain ⟨res, looked⟩ := Call.apply_lookup made
    refine ⟨t, (lookup_keeps looked).1.trans tier, rfl, ?_⟩
    simpa [Call.recorded] using ledger
  | store remote r data now =>
    obtain ⟨res, stored⟩ := Call.apply_store made
    obtain ⟨expires, ⟨rfl, -⟩ | ⟨t₀, tier₀, -, rfl⟩⟩ := store_cases stored
    · -- no writer takes the chunk: nothing is recorded
      exact ⟨t, tier, rfl, by simpa [Call.recorded, tier] using ledger⟩
    · rw [tier, Option.some.injEq] at tier₀
      subst tier₀
      rcases writeBehind_cases { c with memory := c.memory.store (chunkKey remote r) data expires } t
          (t.base ++ chunkFile remote r) data expires with ⟨tier', counted⟩ | ⟨tier', counted, -⟩
      · -- the write succeeded: its file is recorded
        refine ⟨_, tier', by rw [DiskTier.evict_limit, DiskTier.track_limit], ?_⟩
        rw [Call.recorded_store_of_lt tier (by rw [counted]; exact Nat.lt_succ_self _)]
        exact ledger.track_evict _ _ _
      · -- the write failed: the record stays
        refine ⟨t, tier'.trans tier, rfl, ?_⟩
        rw [@Call.recorded_store_of_le c _ remote r data now (Nat.le_of_eq counted), List.append_nil]
        exact ledger

/-- A run of calls keeps the record in step with the history extended by everything the run
had the writer record. -/
theorem Ledger.run : ∀ (calls : List Call) {c c' : Tiered} {t : DiskTier} {history : List (List String × Nat)},
    c.tier = some t → t.Ledger history → runCalls c calls = .ok c' →
      ∃ t', c'.tier = some t' ∧ t'.limit = t.limit ∧ t'.Ledger (history ++ writeLog c calls)
  | [], c, c', t, history, tier, ledger, ran => by
    cases ran
    exact ⟨t, tier, rfl, by simpa [writeLog] using ledger⟩
  | call :: rest, c, c', t, history, tier, ledger, ran => by
    obtain ⟨c₁, made, ran'⟩ := runCalls_cons_inv ran
    obtain ⟨t₁, tier₁, limit₁, ledger₁⟩ := Call.apply_ledger tier ledger made
    obtain ⟨t', tier', limit', ledger'⟩ := Ledger.run rest tier₁ ledger₁ ran'
    refine ⟨t', tier', limit'.trans limit₁, ?_⟩
    rw [writeLog_cons_ok rest made, ← List.append_assoc]
    exact ledger'

/-- The cache opened on a directory with one entry per path, after any stores and lookups at
any times.  The files found below the directory that are no leftovers of interrupted writes,
oldest modification stamp first, were recorded in books in step and trimmed to the bound when it
opened.  The books then follow them and every chunk file whose write the writer counted: they
are in step (the queue names each path once, and exactly the paths with a size, and the total
is the sum of the sizes), each path has the size of its last write, they keep a suffix of the
latest writes whose total is within the bound, and keep them all when there is no bound.  The
next write, when it succeeds, is counted and recorded as the newest, and the bound keeps the
longest suffix that fits, in books in step; when it fails, it is counted as a disk error and
leaves the books as they were. -/
theorem disk_writer_record {disk : Disk} {base : List String} {baseText : String} {ttl limit : Nat}
    {bound : Option Nat} {c₀ c : Tiered} {calls : List Call} (distinct : disk.Distinct)
    (opened : openOn disk base baseText ttl limit bound = .ok c₀) (ran : runCalls c₀ calls = .ok c) :
    ∃ found : List (List String × Nat × Nat),
      found.Perm ((disk.filesBelow base).filter fun f => !isLeftover (f.1.getLastD "")) ∧
      found.Pairwise (fun a b => a.2.2 ≤ b.2.2) ∧
      (∃ t₀, c₀.tier = some t₀ ∧ t₀.books.InStep ∧
        Trims bound (found.map fun f => (base ++ f.1, f.2.1)) t₀.books.record) ∧
      ∃ t, c.tier = some t ∧ t.limit = bound ∧
        t.Ledger ((found.map fun f => (base ++ f.1, f.2.1)) ++ writeLog c₀ calls) ∧
        ∀ path data expires,
          ((c.writeBehind t path data expires).counters.diskWrites = c.counters.diskWrites + 1 ∧
            ∃ t', (c.writeBehind t path data expires).tier = some t' ∧ t'.books.InStep ∧
              Trims bound (t.books.record.filter (·.1 != path) ++ [(path, data.length + expiryLength)])
                t'.books.record) ∨
          ((c.writeBehind t path data expires).counters.diskErrors = c.counters.diskErrors + 1 ∧
            (c.writeBehind t path data expires).tier = c.tier) := by
  obtain ⟨t₀, tier₀, limit₀, inStep₀, trims₀⟩ := openOn_trims opened
  set found := ((disk.filesBelow base).filter fun f => !isLeftover (f.1.getLastD "")).mergeSort
    fun a b => a.2.2 ≤ b.2.2
  have perm : found.Perm ((disk.filesBelow base).filter fun f => !isLeftover (f.1.getLastD "")) :=
    List.mergeSort_perm _ _
  have sorted : found.Pairwise (fun a b => a.2.2 ≤ b.2.2) :=
    (@List.pairwise_mergeSort (List String × Nat × Nat) (fun a b => decide (a.2.2 ≤ b.2.2))
      (fun a b c first second => by simp only [decide_eq_true_eq] at first second ⊢; omega)
      (fun a b => by simpa using Nat.le_total a.2.2 b.2.2) _).imp (by simp)
  -- the files found name each path once, so they are their own latest writes
  have fresh : ((found.map fun f => (base ++ f.1, f.2.1)).map (·.1)).Nodup := by
    rw [List.map_map]
    exact (perm.map _).nodup_iff.mpr
      (distinct.sublist (((List.filter_sublist).map _).trans (Disk.filesBelow_paths disk base)))
  have own := latestWrites_of_nodup fresh
  rw [own] at trims₀
  have ledger₀ : t₀.Ledger (found.map fun f => (base ++ f.1, f.2.1)) :=
    DiskTier.ledger_of_trims inStep₀ (by simp only [own, List.suffix_refl]) (fun _ => own.symm) (limit₀ ▸ trims₀)
  obtain ⟨t, tier, limit', ledger⟩ := Ledger.run calls tier₀ ledger₀ ran
  refine ⟨found, perm, sorted, ⟨t₀, tier₀, inStep₀, trims₀⟩, t, tier, limit'.trans limit₀, ledger,
    fun path data expires => ?_⟩
  rcases writeBehind_cases c t path data expires with ⟨tier', counted⟩ | ⟨tier', -, errors⟩
  · obtain ⟨tracked, record⟩ := ledger.inStep.track path (data.length + expiryLength)
    obtain ⟨kept, trims⟩ := DiskTier.evict_inStep (t := t.track path (data.length + expiryLength)) tracked
      (writeChunk c.disk path data expires).1
    rw [DiskTier.track_limit, limit', limit₀, DiskTier.track_books, record] at trims
    exact .inl ⟨counted, _, tier', kept, trims⟩
  · exact .inr ⟨errors, tier'⟩

/-- A cache opened on an empty disk under a bound of two chunk files takes four-byte chunks of
the root file: the first, the second, then the first again.  The rewrite moves the first behind
the second in the queue, and the books hold both, 24 bytes in all.  A third chunk written next
then makes the bound delete the second, whose last write is the older, and keep the first. -/
theorem rewrite_requeues_chunk_file :
    ∃ c₀ c t, openOn {} ["cache"] "<dir>/cache" 60 8 (some 24) = .ok c₀ ∧
      runCalls c₀ [.store "" ⟨0, 3⟩ [1, 2, 3, 4] 0, .store "" ⟨4, 7⟩ [5, 6, 7, 8] 0,
        .store "" ⟨0, 3⟩ [9, 9, 9, 9] 0] = .ok c ∧
      c.tier = some t ∧
      t.Ledger (writeLog c₀ [.store "" ⟨0, 3⟩ [1, 2, 3, 4] 0, .store "" ⟨4, 7⟩ [5, 6, 7, 8] 0,
        .store "" ⟨0, 3⟩ [9, 9, 9, 9] 0]) ∧
      t.books.record = [(["cache", "4-7"], 12), (["cache", "0-3"], 12)] ∧ t.books.total = 24 ∧
      ∀ (data : List UInt8) expires t', data.length = 4 →
        (c.writeBehind t ["cache", "8-11"] data expires).counters.diskErrors = c.counters.diskErrors →
        (c.writeBehind t ["cache", "8-11"] data expires).tier = some t' →
        t'.books.record = [(["cache", "0-3"], 12), (["cache", "8-11"], 12)] := by
  set c₀ : Tiered :=
    ⟨{ limit := 8 }, 60, some { base := ["cache"], limit := some 24 }, ({} : Disk).put ["cache"] .dir, {}⟩
  have opened : openOn {} ["cache"] "<dir>/cache" 60 8 (some 24) = .ok c₀ := by
    have none_found : (({} : Disk).put ["cache"] .dir).filesBelow ["cache"] = [] := rfl
    have created : ({} : Disk).createDirAll ["cache"] = .ok (({} : Disk).put ["cache"] .dir) := rfl
    unfold openOn
    simp only [created, bind, Except.bind, pure, Except.pure, none_found, List.filter_nil, List.mergeSort_nil,
      List.foldl_nil]
    rfl
  obtain ⟨c, ran, books⟩ : ∃ c, runCalls c₀ [.store "" ⟨0, 3⟩ [1, 2, 3, 4] 0,
      .store "" ⟨4, 7⟩ [5, 6, 7, 8] 0, .store "" ⟨0, 3⟩ [9, 9, 9, 9] 0] = .ok c ∧
      c.tier.map (fun t => (t.books.record, t.books.total)) =
        some ([(["cache", "4-7"], 12), (["cache", "0-3"], 12)], 24) := by
    rw [runCalls_cons_ok _ (by unfold Call.apply Tiered.store; simp only [chunkFile_root]; rfl),
      runCalls_cons_ok _ (by unfold Call.apply Tiered.store; simp only [chunkFile_root]; rfl),
      runCalls_cons_ok _ (by unfold Call.apply Tiered.store; simp only [chunkFile_root]; rfl)]
    refine ⟨_, rfl, ?_⟩
    decide +kernel
  obtain ⟨t, tier, same⟩ := Option.map_eq_some_iff.mp books
  obtain ⟨record, total⟩ := Prod.mk.injEq _ _ _ _ ▸ same
  have distinct : Disk.Distinct {} := List.nodup_nil
  obtain ⟨found, perm, -, -, t₁, tier₁, -, ledger, next⟩ := disk_writer_record distinct opened ran
  have none_found : found = [] := by simpa [Disk.filesBelow] using perm
  rw [none_found, List.map_nil, List.nil_append] at ledger
  rw [tier, Option.some.injEq] at tier₁
  subst tier₁
  refine ⟨c₀, c, t, opened, ran, tier, ledger, record, total, fun data expires t' sized clean tier' => ?_⟩
  -- the next write is counted, so the bound keeps the longest suffix of the three that fits
  rcases next ["cache", "8-11"] data expires with ⟨-, t'', tier'', -, trims⟩ | ⟨errors, -⟩
  · rw [tier', Option.some.injEq] at tier''
    subst tier''
    rw [record, sized] at trims
    obtain ⟨suffix, within, longest⟩ := trims
    have two : [(["cache", "0-3"], 12), (["cache", "8-11"], 12)] <:+
        ([(["cache", "4-7"], 12), (["cache", "0-3"], 12)].filter (·.1 != ["cache", "8-11"]) ++
          [(["cache", "8-11"], 4 + expiryLength)]) := ⟨[(["cache", "4-7"], 12)], rfl⟩
    have not_shorter : ¬ t'.books.record.length < 2 := fun shorter =>
      absurd (longest _ two shorter) (by decide)
    rcases List.suffix_cons_iff.mp suffix with whole | rest
    · rw [whole] at within
      exact absurd within (by decide)
    · rcases List.suffix_cons_iff.mp rest with pair | rest'
      · exact pair
      · have short : t'.books.record.length ≤ 1 := by simpa using rest'.length_le
        omega
  · omega

end Tiered

end ChunkProxy.Cache
