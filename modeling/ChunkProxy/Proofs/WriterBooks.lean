import ChunkProxy.Proofs.CacheContent
/-!
# The disk writer's books

The writer keeps three records of the chunk files it knows (`Books`): a map from path to the
size it recorded, a queue of the paths oldest first, and a running total.  `Books.InStep` says
they agree: the queue names each path once, and exactly the paths that have a size, and the
total is the sum of those sizes.  Books in step read as one list, the queue with each path's
size (`Books.record`), and what the writer does to the three records is a plain operation on
that list.

Recording a file keeps the books in step; the record becomes the old one without the file's
path, then the file (`InStep.track`).  The size the path had leaves the total exactly, so the
subtraction that would stop at zero never has to.  Taking the oldest path off the queue keeps
the books in step and drops the head of the record (`InStep.pop`).  So applying a bound keeps
them in step and keeps the longest suffix of the record whose total fits (`InStep.evictFrom`,
`Trims`): the oldest files go first, and no more of them than the bound needs.
-/

namespace ChunkProxy.Cache

set_option autoImplicit false

/-- The total size of files listed with their sizes. -/
def recordTotal (files : List (List String × Nat)) : Nat := (files.map (·.2)).foldr (· + ·) 0

theorem recordTotal_cons (f : List String × Nat) (files : List (List String × Nat)) :
    recordTotal (f :: files) = f.2 + recordTotal files := rfl

theorem recordTotal_append (front back : List (List String × Nat)) :
    recordTotal (front ++ back) = recordTotal front + recordTotal back := by
  induction front with
  | nil => simp [recordTotal]
  | cons f rest ih => rw [List.cons_append, recordTotal_cons, recordTotal_cons, ih, Nat.add_assoc]

/-- The total of files listed once each is the total of those under other paths and the size
listed under a path, if any. -/
theorem recordTotal_filter (p : List String) :
    ∀ {files : List (List String × Nat)}, (files.map (·.1)).Nodup →
      recordTotal files = recordTotal (files.filter (·.1 != p)) + (files.lookup p).getD 0
  | [], _ => rfl
  | (q, size) :: rest, distinct => by
    rw [List.map_cons, List.nodup_cons] at distinct
    by_cases same : q = p
    · subst same
      -- the rest lists other paths only
      have absent : ∀ f ∈ rest, f.1 ≠ q := fun f mem named =>
        distinct.1 (named ▸ List.mem_map_of_mem (f := (·.1)) mem)
      have others : rest.filter (·.1 != q) = rest :=
        List.filter_eq_self.mpr fun f mem => by simpa using absent f mem
      simp [others, recordTotal_cons, Nat.add_comm]
    · have ih := recordTotal_filter p distinct.2
      simp only [List.filter_cons, bne_iff_ne, ne_eq, same, not_false_eq_true, if_true, recordTotal_cons,
        List.lookup_cons, beq_false_of_ne (Ne.symm same), ih, Nat.add_assoc]

/-- A lookup in a list of paths each with its value finds the value of a path listed. -/
theorem lookup_map_pair {β : Type} (value : List String → β) (p : List String) :
    ∀ order : List (List String), (order.map fun q => (q, value q)).lookup p = if p ∈ order then some (value p) else none
  | [] => by simp
  | q :: rest => by
    by_cases same : p = q
    · subst same
      simp
    · simp [List.lookup_cons, beq_false_of_ne same, same, lookup_map_pair value p rest]

/-! ## What a bound keeps -/

/-- What a disk bound leaves of files listed oldest first: with no bound all of them; under a
bound the longest suffix whose total fits, so the oldest go first and no more of them than
the bound needs. -/
def Trims : Option Nat → List (List String × Nat) → List (List String × Nat) → Prop
  | none, files, kept => kept = files
  | some limit, files, kept =>
    kept <:+ files ∧ recordTotal kept ≤ limit ∧
      ∀ s, s <:+ files → kept.length < s.length → limit < recordTotal s

theorem Trims.suffix : ∀ {bound : Option Nat} {files kept : List (List String × Nat)},
    Trims bound files kept → kept <:+ files
  | none, _, _, same => same ▸ List.suffix_refl _
  | some _, _, _, trims => trims.1

/-- Files that fit are all kept. -/
theorem trims_of_fits {limit : Nat} {files : List (List String × Nat)} (fits : recordTotal files ≤ limit) :
    Trims (some limit) files files :=
  ⟨List.suffix_refl _, fits, fun _ inside longer => absurd inside.length_le (Nat.not_le.mpr longer)⟩

/-- When the files do not fit, the oldest goes: what the bound keeps of the rest it keeps of
them all. -/
theorem Trims.cons {limit : Nat} {f : List String × Nat} {rest kept : List (List String × Nat)}
    (trims : Trims (some limit) rest kept) (exceeds : limit < recordTotal (f :: rest)) :
    Trims (some limit) (f :: rest) kept := by
  obtain ⟨suffix, within, longest⟩ := trims
  refine ⟨suffix.trans (List.suffix_cons f rest), within, fun s inside longer => ?_⟩
  rcases List.suffix_cons_iff.mp inside with rfl | inside
  · exact exceeds
  · exact longest s inside longer

namespace Books

/-- The size recorded for a path, zero when it has none. -/
def sizeOf (b : Books) (p : List String) : Nat := (b.sizes.lookup p).getD 0

/-- The queue with each path's recorded size. -/
def record (b : Books) : List (List String × Nat) := b.order.map fun p => (p, b.sizeOf p)

/-- The writer's three records agree: the queue names each path once, and exactly the paths
that have a size; the total is the sum of their sizes. -/
structure InStep (b : Books) : Prop where
  nodup : b.order.Nodup
  known : ∀ p, (b.sizes.lookup p).isSome ↔ p ∈ b.order
  total : b.total = recordTotal b.record

theorem inStep_empty : ({} : Books).InStep := ⟨List.nodup_nil, fun p => by simp, rfl⟩

@[simp] theorem record_paths (b : Books) : b.record.map (·.1) = b.order := by
  simp [record, Function.comp_def]

/-- The paths of the record of books in step are distinct. -/
theorem InStep.paths_nodup {b : Books} (inStep : b.InStep) : (b.record.map (·.1)).Nodup := by
  rw [record_paths]
  exact inStep.nodup

/-- In books in step, the record has the size the map has for each path. -/
theorem InStep.lookup_record {b : Books} (inStep : b.InStep) (p : List String) :
    b.record.lookup p = b.sizes.lookup p := by
  rw [record, lookup_map_pair]
  by_cases queued : p ∈ b.order
  · obtain ⟨size, sized⟩ := Option.isSome_iff_exists.mp ((inStep.known p).mpr queued)
    rw [if_pos queued, sizeOf, sized, Option.getD_some]
  · rw [if_neg queued]
    exact (Option.not_isSome_iff_eq_none.mp fun sized => queued ((inStep.known p).mp sized)).symm

/-! ## Recording a file -/

section Track

variable {b : Books} (p : List String) (size : Nat)

/-- Recording moves the path to the back of the queue. -/
theorem track_order (inStep : b.InStep) : (b.track p size).order = b.order.filter (· != p) ++ [p] := by
  unfold track
  cases sized : b.sizes.lookup p with
  | none =>
    -- a path with no size is not queued, so there is nothing to take out
    have unqueued : p ∉ b.order := fun queued => by simpa [sized] using (inStep.known p).mpr queued
    have kept : b.order.filter (· != p) = b.order :=
      List.filter_eq_self.mpr fun q mem => by simpa using fun (same : q = p) => unqueued (same ▸ mem)
    simp [kept]
  | some old => rfl

/-- Recording gives the path its new size and leaves the others. -/
theorem track_lookup (q : List String) :
    (b.track p size).sizes.lookup q = if q = p then some size else b.sizes.lookup q := by
  unfold track
  by_cases same : q = p
  · subst same
    simp
  · simp [List.lookup_cons, beq_false_of_ne same, same, lookup_filter_ne]

theorem track_sizeOf (q : List String) :
    (b.track p size).sizeOf q = if q = p then size else b.sizeOf q := by
  unfold sizeOf
  rw [track_lookup]
  split <;> rfl

/-- The total after recording: the record's total without the path, and the new size. -/
theorem track_total (inStep : b.InStep) :
    (b.track p size).total = recordTotal (b.record.filter (·.1 != p)) + size := by
  have whole := recordTotal_filter p inStep.paths_nodup
  rw [inStep.lookup_record, ← inStep.total] at whole
  unfold track
  cases sized : b.sizes.lookup p with
  | none =>
    rw [sized, Option.getD_none, Nat.add_zero] at whole
    simp [whole]
  | some old =>
    rw [sized, Option.getD_some] at whole
    simp only
    omega

theorem track_record (inStep : b.InStep) :
    (b.track p size).record = b.record.filter (·.1 != p) ++ [(p, size)] := by
  rw [record, track_order p size inStep, List.map_append, List.map_singleton, track_sizeOf, if_pos rfl, record,
    List.filter_map]
  congr 1
  -- every path left in the queue is another path, whose size stays
  refine List.map_congr_left fun q mem => ?_
  have other : q ≠ p := by simpa using (List.mem_filter.mp mem).2
  rw [track_sizeOf, if_neg other]

/-- Recording a file keeps the books in step, and its record is the old one without the file's
path, then the file. -/
theorem InStep.track (inStep : b.InStep) :
    (b.track p size).InStep ∧ (b.track p size).record = b.record.filter (·.1 != p) ++ [(p, size)] := by
  refine ⟨⟨?_, fun q => ?_, ?_⟩, track_record p size inStep⟩
  · rw [track_order p size inStep]
    refine List.nodup_append.mpr ⟨inStep.nodup.filter _, List.pairwise_singleton _ p, fun q mem q' mem' => ?_⟩
    rw [List.mem_singleton] at mem'
    subst mem'
    simpa using (List.mem_filter.mp mem).2
  · rw [track_lookup, track_order p size inStep]
    by_cases same : q = p
    · simp [same]
    · simp [same, inStep.known q]
  · rw [track_total p size inStep, track_record p size inStep, recordTotal_append]
    rfl

end Track

/-! ## Applying the bound -/

/-- Taking the oldest path off the queue, its size off the map and off the total, keeps the
books in step and drops the head of the record. -/
theorem InStep.pop {sizes : List (List String × Nat)} {oldest : List String} {rest : List (List String)}
    {total : Nat} (inStep : (⟨sizes, oldest :: rest, total⟩ : Books).InStep) :
    (⟨sizes.filter (·.1 != oldest), rest, total - (sizes.lookup oldest).getD 0⟩ : Books).InStep ∧
      record ⟨sizes.filter (·.1 != oldest), rest, total - (sizes.lookup oldest).getD 0⟩ =
        (record ⟨sizes, oldest :: rest, total⟩).tail := by
  obtain ⟨fresh, distinct⟩ := List.nodup_cons.mp inStep.nodup
  -- the paths left are other paths, whose sizes stay
  have sizes_rest : record ⟨sizes.filter (·.1 != oldest), rest, total - (sizes.lookup oldest).getD 0⟩ =
      (record ⟨sizes, oldest :: rest, total⟩).tail := by
    simp only [record, List.map_cons, List.tail_cons]
    refine List.map_congr_left fun q mem => ?_
    have other : q ≠ oldest := fun same => fresh (same ▸ mem)
    simp [sizeOf, lookup_filter_ne, other]
  refine ⟨⟨distinct, fun q => ?_, ?_⟩, sizes_rest⟩
  · have known := inStep.known q
    by_cases same : q = oldest
    · subst same
      simp [lookup_filter_ne, fresh]
    · simp only [List.mem_cons, same, false_or] at known
      simp [lookup_filter_ne, same, known]
  · have whole : total = (sizes.lookup oldest).getD 0 + recordTotal (record ⟨sizes, oldest :: rest, total⟩).tail :=
      inStep.total
    show total - (sizes.lookup oldest).getD 0 = recordTotal (record _)
    rw [sizes_rest]
    omega

/-- The bound keeps books in step, and keeps the longest suffix of the record that fits. -/
theorem InStep.evictFrom (limit : Nat) :
    ∀ (order : List (List String)) (sizes : List (List String × Nat)) (total : Nat) (d : Disk) (n : Nat),
      (⟨sizes, order, total⟩ : Books).InStep →
        (Books.evictFrom limit order sizes total d n).1.InStep ∧
          Trims (some limit) (record ⟨sizes, order, total⟩) (Books.evictFrom limit order sizes total d n).1.record
  | [], sizes, total, d, n, inStep => ⟨inStep, trims_of_fits (Nat.zero_le limit)⟩
  | oldest :: rest, sizes, total, d, n, inStep => by
    have whole : total = recordTotal (record ⟨sizes, oldest :: rest, total⟩) := inStep.total
    unfold Books.evictFrom
    split
    · rename_i fits
      exact ⟨inStep, trims_of_fits (whole ▸ fits)⟩
    · rename_i exceeds
      -- the oldest file goes, and the bound applies to what is left
      have exceeds : limit < recordTotal (record ⟨sizes, oldest :: rest, total⟩) := by
        rw [← whole]
        omega
      obtain ⟨popped, tail⟩ := inStep.pop
      have head : record ⟨sizes, oldest :: rest, total⟩ =
          (oldest, sizeOf ⟨sizes, oldest :: rest, total⟩ oldest) :: (record ⟨sizes, oldest :: rest, total⟩).tail :=
        rfl
      -- whether its file is removed or not, the books lose the same path
      split
      all_goals
        obtain ⟨kept, trims⟩ := InStep.evictFrom limit rest _ _ _ _ popped
        rw [tail] at trims
        exact ⟨kept, head ▸ trims.cons (head ▸ exceeds)⟩

end Books

namespace DiskTier

theorem track_books (t : DiskTier) (p : List String) (size : Nat) : (t.track p size).books = t.books.track p size :=
  rfl

theorem track_limit (t : DiskTier) (p : List String) (size : Nat) : (t.track p size).limit = t.limit := rfl

theorem evict_limit (t : DiskTier) (d : Disk) : (t.evict d).1.limit = t.limit := by
  unfold evict
  split <;> rfl

/-- Applying the bound keeps the books in step, and keeps what `Trims` says of the record. -/
theorem evict_inStep {t : DiskTier} (inStep : t.books.InStep) (d : Disk) :
    (t.evict d).1.books.InStep ∧ Trims t.limit t.books.record (t.evict d).1.books.record := by
  unfold evict
  cases bound : t.limit with
  | none => exact ⟨inStep, rfl⟩
  | some limit => exact Books.InStep.evictFrom limit t.books.order t.books.sizes t.books.total d 0 inStep

end DiskTier

end ChunkProxy.Cache
