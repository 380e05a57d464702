import ChunkProxy.Chunk.Plan
/-!
# What a chunk plan covers

A read of bytes `first..last` of a file is planned as the chunks that meet
those bytes, each with the part of it that is wanted.  This module states what
the plan is good for: the wanted parts of its chunks, taken in file order, are
exactly the bytes asked for (`flatten_wanted_make`), and each wanted part lies
inside its chunk, which lies inside the file (`Within`).  The end of the
request is cut at the end of the file, so a request may run past it.

Bytes are named by half-open segments `segment c a b` (from `a`, up to but not
including `b`); a byte range `first..last` is the segment up to `last + 1`.
Consecutive chunks meet: the wanted part of chunk `k + 1` starts where that of
chunk `k` stops, so their segments join (`segment_append`).
-/

namespace ChunkProxy

set_option autoImplicit false

variable {α : Type}

/-- The elements of a list from position `a` up to, not including, position `b`. -/
def segment (c : List α) (a b : Nat) : List α := (c.drop a).take (b - a)

/-- The bytes of a content that a range names; a range running past the end is cut there. -/
def ByteRange.bytesOf (r : ByteRange) (c : List α) : List α := segment c r.first (r.last + 1)

theorem segment_append (c : List α) {a b d : Nat} (hab : a ≤ b) (hbd : b ≤ d) :
    segment c a b ++ segment c b d = segment c a d := by
  unfold segment
  have split : d - a = (b - a) + (d - b) := by omega
  rw [split, List.take_add, List.drop_drop, Nat.add_sub_cancel' hab]

theorem segment_of_le (c : List α) {a b : Nat} (hba : b ≤ a) : segment c a b = [] := by
  simp [segment, Nat.sub_eq_zero_of_le hba]

theorem length_segment (c : List α) {a b : Nat} (hab : a ≤ b) (hb : b ≤ c.length) :
    (segment c a b).length = b - a := by
  simp only [segment, List.length_take, List.length_drop]
  omega

/-- A segment past the end of the list stops at the end. -/
theorem segment_min_length (c : List α) (a b : Nat) : segment c a (min b c.length) = segment c a b := by
  unfold segment
  rw [List.take_eq_take_iff, List.length_drop]
  omega

theorem segment_whole (c : List α) : segment c 0 c.length = c := by
  simp [segment]

/-- Cutting a segment by offsets from its start gives the segment between them. -/
theorem segment_cut (c : List α) {a s e b : Nat} (has : a ≤ s) (hse : s ≤ e) (heb : e ≤ b) :
    ((segment c a b).take (e - a)).drop (s - a) = segment c s e := by
  unfold segment
  rw [List.take_take, Nat.min_eq_left (by omega), List.drop_take, List.drop_drop,
    Nat.add_sub_cancel' has]
  congr 1
  omega

/-- The bytes a read asks for: those of its range, or the whole content without one. -/
def wantedBytes (c : List α) : Option ByteRange → List α
  | none => c
  | some r => r.bytesOf c

/-! ## One chunk -/

/-- A chunk whose wanted part lies inside it, and which lies inside a file of `size`
bytes. -/
structure ChunkSpec.Within (size : Nat) (sp : ChunkSpec) : Prop where
  starts : sp.range.first ≤ sp.wanted.first
  ordered : sp.wanted.first ≤ sp.wanted.last
  ends : sp.wanted.last ≤ sp.range.last
  inside : sp.range.last < size

namespace ChunkPlan

/-- A plan made for a read of a file of `size` bytes, at most a word long: its wanted
bytes lie in the file, and its pending chunks run from the first wanted byte's chunk. -/
structure Made (size : Nat) (p : ChunkPlan) : Prop where
  chunk_pos : 0 < p.chunkSize
  ordered : p.wanted.first ≤ p.wanted.last
  last_byte : p.lastByte + 1 = size
  inside : p.wanted.last ≤ p.lastByte
  word : size ≤ wordBound

theorem spec_range_first (p : ChunkPlan) (i : Nat) : (p.spec i).range.first = i * p.chunkSize := rfl

theorem spec_wanted (p : ChunkPlan) (i : Nat) :
    (p.spec i).wanted =
      ⟨max p.wanted.first (i * p.chunkSize), min p.wanted.last (p.spec i).range.last⟩ := rfl

/-- Within a made plan the word bound never cuts a chunk: a chunk stops at the end of its
aligned window or at the last byte of the file. -/
theorem spec_range_last {size : Nat} {p : ChunkPlan} (made : p.Made size) (i : Nat) :
    (p.spec i).range.last = min (i * p.chunkSize + (p.chunkSize - 1)) p.lastByte := by
  have word := made.word
  have last := made.last_byte
  simp only [spec, wordMax]
  omega

/-- Every chunk between the first and the last wanted byte's chunk meets the wanted bytes. -/
theorem spec_within {size : Nat} {p : ChunkPlan} (made : p.Made size) {i : Nat}
    (from_first : p.wanted.first / p.chunkSize ≤ i) (to_last : i ≤ p.wanted.last / p.chunkSize) :
    (p.spec i).Within size := by
  have pos := made.chunk_pos
  have stop := spec_range_last made i
  -- the chunk's window `i·c .. i·c + c - 1` meets `first .. last`
  have window_first : p.wanted.first < p.wanted.first / p.chunkSize * p.chunkSize + p.chunkSize :=
    Nat.lt_div_mul_add pos
  have first_chunk : p.wanted.first / p.chunkSize * p.chunkSize ≤ i * p.chunkSize :=
    Nat.mul_le_mul_right _ from_first
  have window_last : p.wanted.last / p.chunkSize * p.chunkSize ≤ p.wanted.last :=
    Nat.div_mul_le_self _ _
  have last_chunk : i * p.chunkSize ≤ p.wanted.last / p.chunkSize * p.chunkSize :=
    Nat.mul_le_mul_right _ to_last
  have ordered := made.ordered
  have inside := made.inside
  have last := made.last_byte
  constructor <;> simp only [spec_wanted, spec_range_first, stop] <;> omega

/-- The chunks from the first wanted byte's chunk on: the wanted parts of the first `n`
of them join into the wanted bytes up to the end of the `n`-th chunk's window. -/
theorem flatten_wanted_prefix {size : Nat} {p : ChunkPlan} (made : p.Made size) (c : List α) :
    ∀ n, p.wanted.first / p.chunkSize + n ≤ p.wanted.last / p.chunkSize + 1 →
      ((List.range n).map fun k => (p.spec (p.wanted.first / p.chunkSize + k)).wanted.bytesOf c).flatten =
        segment c p.wanted.first
          (min (p.wanted.last + 1) ((p.wanted.first / p.chunkSize + n) * p.chunkSize))
  | 0, _ => by
    have aligned : p.wanted.first / p.chunkSize * p.chunkSize ≤ p.wanted.first := Nat.div_mul_le_self _ _
    rw [segment_of_le c (by simp only [Nat.add_zero]; omega)]
    rfl
  | n + 1, more => by
    have earlier := flatten_wanted_prefix made c n (by omega)
    have stop := spec_range_last made (p.wanted.first / p.chunkSize + n)
    have pos := made.chunk_pos
    have inside := made.inside
    have window_last : p.wanted.last / p.chunkSize * p.chunkSize ≤ p.wanted.last :=
      Nat.div_mul_le_self _ _
    have reaches : (p.wanted.first / p.chunkSize + n) * p.chunkSize ≤
        p.wanted.last / p.chunkSize * p.chunkSize := Nat.mul_le_mul_right _ (by omega)
    have next_window : (p.wanted.first / p.chunkSize + (n + 1)) * p.chunkSize =
        (p.wanted.first / p.chunkSize + n) * p.chunkSize + p.chunkSize := by
      rw [← Nat.add_assoc, Nat.add_mul, Nat.one_mul]
    have piece : (p.spec (p.wanted.first / p.chunkSize + n)).wanted.bytesOf c =
        segment c (max p.wanted.first ((p.wanted.first / p.chunkSize + n) * p.chunkSize))
          (min (p.wanted.last + 1) ((p.wanted.first / p.chunkSize + n) * p.chunkSize + p.chunkSize)) := by
      rw [ByteRange.bytesOf, spec_wanted, stop]
      dsimp only
      congr 1
      omega
    rw [List.range_succ, List.map_append, List.flatten_append, earlier, List.map_singleton,
      List.flatten_singleton, piece, next_window]
    generalize (p.wanted.first / p.chunkSize + n) * p.chunkSize = window at reaches ⊢
    by_cases before : window ≤ p.wanted.first
    · -- the chunk holds the first wanted byte: nothing was wanted before it
      rw [segment_of_le c (by omega), List.nil_append, Nat.max_eq_left before]
    · -- a later chunk: its wanted part starts where the one before it stopped
      rw [Nat.max_eq_right (by omega), Nat.min_eq_right (a := p.wanted.last + 1) (by omega),
        segment_append c (by omega) (by omega)]

/-- The chunks a made plan holds pending are those from the first wanted byte's chunk to
the last wanted byte's chunk, and their wanted parts join into the wanted bytes. -/
theorem flatten_wanted_toList {size : Nat} {p : ChunkPlan} (made : p.Made size)
    (pending : p.pending = some (p.wanted.first / p.chunkSize, p.wanted.last / p.chunkSize))
    (c : List α) :
    (p.toList.map fun sp => sp.wanted.bytesOf c).flatten = p.wanted.bytesOf c := by
  have pos := made.chunk_pos
  have beyond : p.wanted.last < (p.wanted.last / p.chunkSize + 1) * p.chunkSize := by
    rw [Nat.add_mul, Nat.one_mul]; exact Nat.lt_div_mul_add pos
  have ordered : p.wanted.first / p.chunkSize ≤ p.wanted.last / p.chunkSize :=
    Nat.div_le_div_right made.ordered
  simp only [toList, pending, List.map_map]
  rw [show ((fun sp : ChunkSpec => sp.wanted.bytesOf c) ∘ fun k => p.spec (p.wanted.first / p.chunkSize + k)) =
      fun k => (p.spec (p.wanted.first / p.chunkSize + k)).wanted.bytesOf c from rfl,
    flatten_wanted_prefix made c _ (by omega), ByteRange.bytesOf]
  congr 1
  rw [Nat.add_sub_cancel' (by omega)]
  omega

/-- The pending chunks of a made plan lie inside the file, each around its wanted part. -/
theorem within_of_mem_toList {size : Nat} {p : ChunkPlan} (made : p.Made size)
    (pending : p.pending = some (p.wanted.first / p.chunkSize, p.wanted.last / p.chunkSize))
    {sp : ChunkSpec} (mem : sp ∈ p.toList) : sp.Within size := by
  simp only [toList, pending, List.mem_map, List.mem_range] at mem
  obtain ⟨k, below, rfl⟩ := mem
  exact spec_within made (by omega) (by omega)

/-- A plan made for a read: an empty file has no chunks; otherwise the plan is made and its
wanted bytes are those the read asks for, cut at the end of the file. -/
theorem make_spec {cs size : Nat} {requested : Option ByteRange} {p : ChunkPlan}
    (planned : make cs size requested = .ok p) (word : size ≤ wordBound)
    (ordered : ∀ r ∈ requested, r.first ≤ r.last) :
    (size = 0 ∧ p.pending = none) ∨
    (p.Made size ∧ p.pending = some (p.wanted.first / p.chunkSize, p.wanted.last / p.chunkSize) ∧
      ∀ c : List α, c.length = size → p.wanted.bytesOf c = wantedBytes c requested) := by
  unfold make at planned
  by_cases empty : size = 0
  · subst empty
    simp only [beq_self_eq_true, if_true, Except.ok.injEq] at planned
    exact Or.inl ⟨rfl, by rw [← planned]⟩
  · right
    have nonzero : (size == 0) = false := by simpa using empty
    simp only [nonzero, Bool.false_eq_true, if_false] at planned
    cases requested with
    | none =>
      simp only [Except.map, Except.ok.injEq] at planned
      subst planned
      refine ⟨⟨by simp only [effectiveSize]; omega, Nat.zero_le _, by simp only; omega, Nat.le_refl _, word⟩,
        rfl, fun c length => ?_⟩
      simp only [ByteRange.bytesOf, wantedBytes]
      rw [Nat.sub_add_cancel (Nat.pos_of_ne_zero empty), ← length]
      exact segment_whole c
    | some r =>
      have first_le := ordered r rfl
      by_cases beyond : r.first ≥ size
      · simp [beyond, Except.map] at planned
      · simp only [beyond, if_false, Except.map, Except.ok.injEq] at planned
        subst planned
        refine ⟨⟨by simp only [effectiveSize]; omega, by simp only; omega, by simp only; omega, by simp only; omega, word⟩,
          rfl, fun c length => ?_⟩
        simp only [ByteRange.bytesOf, wantedBytes]
        rw [← segment_min_length c r.first (r.last + 1), ← segment_min_length c r.first (min r.last _ + 1)]
        congr 1
        omega

/-- A read of the whole file, or of a range that starts inside it, is planned. -/
theorem make_ok (cs size : Nat) {requested : Option ByteRange} (starts : ∀ r ∈ requested, r.first < size) :
    ∃ p, make cs size requested = .ok p := by
  unfold make
  by_cases empty : size = 0
  · subst empty
    exact ⟨_, rfl⟩
  · have nonzero : (size == 0) = false := by simpa using empty
    simp only [nonzero, Bool.false_eq_true, if_false]
    cases requested with
    | none => exact ⟨_, rfl⟩
    | some r =>
      have inside : ¬ r.first ≥ size := Nat.not_le.mpr (starts r rfl)
      simp only [inside, if_false]
      exact ⟨_, rfl⟩

/-- The chunks of a planned read lie inside the file around their wanted parts, and those
parts, in file order, are exactly the bytes the read asks for. -/
theorem flatten_wanted_make {cs size : Nat} {requested : Option ByteRange} {p : ChunkPlan}
    (planned : make cs size requested = .ok p) (word : size ≤ wordBound)
    (ordered : ∀ r ∈ requested, r.first ≤ r.last) (c : List α) (length : c.length = size) :
    (p.toList.map fun sp => sp.wanted.bytesOf c).flatten = wantedBytes c requested ∧
      ∀ sp ∈ p.toList, sp.Within size := by
  rcases make_spec (α := α) planned word ordered with ⟨empty, pending⟩ | ⟨made, pending, asked⟩
  · have nothing : c = [] := List.eq_nil_of_length_eq_zero (by omega)
    subst nothing
    cases requested <;> simp [toList, pending, wantedBytes, ByteRange.bytesOf, segment]
  · exact ⟨(flatten_wanted_toList made pending c).trans (asked c length),
      fun sp mem => within_of_mem_toList made pending mem⟩

/-! ## Walking a plan -/

theorem spec_pending (p : ChunkPlan) (q : Option (Nat × Nat)) (i : Nat) :
    ({ p with pending := q } : ChunkPlan).spec i = p.spec i := rfl

/-- Taking the next chunk takes the first pending one. -/
theorem toList_of_next_some {p p' : ChunkPlan} {sp : ChunkSpec} (taken : p.next = (some sp, p')) :
    p.toList = sp :: p'.toList := by
  unfold next at taken
  split at taken
  · rename_i lo hi pending
    split at taken
    · rename_i before
      simp only [Prod.mk.injEq, Option.some.injEq] at taken
      obtain ⟨rfl, rfl⟩ := taken
      simp only [toList, pending, spec_pending]
      rw [show hi + 1 - lo = hi + 1 - (lo + 1) + 1 by omega, List.range_succ_eq_map]
      simp only [List.map_cons, List.map_map, Nat.add_zero]
      congr 2
      funext k
      simp only [Function.comp, Nat.add_assoc, Nat.add_comm 1 k]
    · split at taken
      · rename_i last
        simp only [Prod.mk.injEq, Option.some.injEq] at taken
        obtain ⟨rfl, rfl⟩ := taken
        have same : hi = lo := (beq_iff_eq.mp last).symm
        subst same
        simp [toList, pending]
      · simp at taken
  · simp at taken

/-- When no chunk is taken, none was pending and none is. -/
theorem toList_of_next_none {p p' : ChunkPlan} (taken : p.next = (none, p')) :
    p.toList = [] ∧ p'.toList = [] := by
  unfold next at taken
  split at taken
  · rename_i lo hi pending
    split at taken
    · simp at taken
    · split at taken
      · simp at taken
      · rename_i after differ
        simp only [Prod.mk.injEq, true_and] at taken
        subst taken
        have empty : hi + 1 - lo = 0 := by simp only [beq_iff_eq] at differ; omega
        simp [toList, pending, empty]
  · rename_i pending
    simp only [Prod.mk.injEq, true_and] at taken
    subst taken
    simp [toList, pending]

end ChunkPlan

end ChunkProxy
