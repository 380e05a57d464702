import ChunkProxy.Proofs.ChunkWalk
/-!
# The chunks a read is planned as

A read of a file of `F > 0` bytes, for chunks of `c ≥ 1` bytes, asks for the bytes `s..e`:
those of its range with the end cut at the last byte `F - 1`, or the whole file
(`wantedBounds`).  Its plan is computed from indices alone, never by walking the file; this
module gives it in closed form (`alignedChunks`): for `k` from `s / c` to `e / c`, the chunk of
index `k` covers `k·c .. min (k·c + c - 1) (F - 1)` and wants `max s (k·c) .. min e (k·c + c - 1)`.

Everything rests on one window fact (`aligned_window`): the chunk of an index between those
of `s` and `e` starts at or before `e` and ends past `s`.  From it:

* each wanted part is a non-empty part of its chunk, inside the file; consecutive wanted parts
  meet; the first starts at `s` and the last stops at `e`; their sizes add up to `e - s + 1`;
  the wanted offsets cut out the wanted part; and a chunk is wanted whole exactly when it lies
  inside `s..e` (`Tiles`);
* every number the plan computes fits a 64-bit word, so the multiplication that places a
  chunk cannot overflow even for a file of `2^64 - 1` bytes whose size `c` does not divide
  (`InWords`).

Main statement (`make_plans_aligned_chunks`): the plan is made and is an `AlignedPlan`:
taking its chunks from the front yields `alignedChunks` and then nothing, and its count is
`e / c - s / c + 1`, which is the file's chunk count when the whole file is read.
-/

namespace ChunkProxy.ChunkPlan

set_option autoImplicit false

/-- The first and the last byte a read of a file of `size` bytes wants: those of its range,
the end cut at the last byte, or the whole file. -/
def wantedBounds (size : Nat) : Option ByteRange → Nat × Nat
  | none => (0, size - 1)
  | some r => (r.first, min r.last (size - 1))

/-- The chunk of index `k` for chunks of `c` bytes, a file whose last byte is `lastByte` and a
read of the bytes `s..e`: its aligned window cut at the last byte, and the part of it wanted. -/
def alignedChunk (c lastByte s e k : Nat) : ChunkSpec :=
  { index := k, range := ⟨k * c, min (k * c + c - 1) lastByte⟩,
    wanted := ⟨max s (k * c), min e (k * c + c - 1)⟩ }

/-- The chunks of a read of the bytes `s..e`: those from the chunk of `s` to the chunk of `e`,
in file order. -/
def alignedChunks (c lastByte s e : Nat) : List ChunkSpec :=
  (List.range' (s / c) (e / c - s / c + 1)).map (alignedChunk c lastByte s e)

/-- Chunks whose wanted parts tile the bytes `s..e` of a file of `size` bytes: each wanted part
is a non-empty part of its chunk, which lies in the file; consecutive wanted parts meet; the
first starts at `s`, the last stops at `e`, and their sizes add up to the bytes of `s..e`; the
wanted offsets cut the wanted part out of the chunk; and a chunk is wanted whole exactly when
it lies inside `s..e`. -/
structure Tiles (size s e : Nat) (specs : List ChunkSpec) : Prop where
  within : ∀ sp ∈ specs, sp.Within size
  adjacent : specs.IsChain fun a b => a.wanted.last + 1 = b.wanted.first
  starts : specs.head?.map (·.wanted.first) = some s
  stops : specs.getLast?.map (·.wanted.last) = some e
  total : (specs.map (·.wanted.length)).foldr (· + ·) 0 = e - s + 1
  offsets : ∀ sp ∈ specs, sp.offsets.1 < sp.offsets.2 ∧ sp.offsets.2 ≤ sp.range.length ∧
    sp.offsets.2 - sp.offsets.1 = sp.wanted.length
  whole : ∀ sp ∈ specs, (sp.isWhole = true ↔ sp.wanted = sp.range) ∧
    (sp.wanted = sp.range ↔ s ≤ sp.range.first ∧ sp.range.last ≤ e)

/-- Every number the plan computes for its chunks fits a 64-bit word: a chunk's first byte,
the end of its wanted offsets, and the size of its wanted part, which `ByteRange.size`
computes without a fault. -/
structure InWords (c : Nat) (specs : List ChunkSpec) : Prop where
  start : ∀ sp ∈ specs, sp.index * c < wordBound
  offset : ∀ sp ∈ specs, sp.wanted.last - sp.range.first + 1 < wordBound
  size : ∀ sp ∈ specs, sp.wanted.size = .ok sp.wanted.length

section Window

variable {c s e k : Nat}

/-- The chunk of an index between those of `s` and `e` starts at or before `e` and ends past
`s`. -/
theorem aligned_window (pos : 0 < c) (from_first : s / c ≤ k) (to_last : k ≤ e / c) :
    k * c ≤ e ∧ s < k * c + c :=
  ⟨calc k * c ≤ e / c * c := Nat.mul_le_mul_right _ to_last
      _ ≤ e := Nat.div_mul_le_self e c,
   calc s < s / c * c + c := Nat.lt_div_mul_add pos
      _ ≤ k * c + c := Nat.add_le_add_right (Nat.mul_le_mul_right _ from_first) c⟩

theorem mem_alignedChunks {lastByte : Nat} {sp : ChunkSpec} (ordered : s ≤ e)
    (mem : sp ∈ alignedChunks c lastByte s e) :
    ∃ k, s / c ≤ k ∧ k ≤ e / c ∧ sp = alignedChunk c lastByte s e k := by
  have chunks : s / c ≤ e / c := Nat.div_le_div_right ordered
  simp only [alignedChunks, List.mem_map, List.mem_range'_1] at mem
  obtain ⟨k, ⟨from_first, below⟩, rfl⟩ := mem
  exact ⟨k, from_first, by omega, rfl⟩

variable {size : Nat}

/-- A chunk between those of `s` and `e` lies in the file around a non-empty wanted part. -/
theorem alignedChunk_within (pos : 0 < c) (ordered : s ≤ e) (inside : e < size)
    (from_first : s / c ≤ k) (to_last : k ≤ e / c) :
    (alignedChunk c (size - 1) s e k).Within size := by
  obtain ⟨starts, ends⟩ := aligned_window pos from_first to_last
  constructor <;> simp only [alignedChunk] <;> omega

/-- Wanted offsets cut the wanted part out of the chunk it lies in. -/
theorem offsets_of_within {sp : ChunkSpec} (within : sp.Within size) :
    sp.offsets.1 < sp.offsets.2 ∧ sp.offsets.2 ≤ sp.range.length ∧
      sp.offsets.2 - sp.offsets.1 = sp.wanted.length := by
  have := within.starts
  have := within.ordered
  have := within.ends
  simp only [ChunkSpec.offsets, ByteRange.length]
  omega

/-- A chunk between those of `s` and `e` is wanted whole exactly when it lies inside `s..e`. -/
theorem alignedChunk_whole (pos : 0 < c) (inside : e < size)
    (from_first : s / c ≤ k) (to_last : k ≤ e / c) :
    ((alignedChunk c (size - 1) s e k).isWhole = true ↔
        (alignedChunk c (size - 1) s e k).wanted = (alignedChunk c (size - 1) s e k).range) ∧
      ((alignedChunk c (size - 1) s e k).wanted = (alignedChunk c (size - 1) s e k).range ↔
        s ≤ (alignedChunk c (size - 1) s e k).range.first ∧
          (alignedChunk c (size - 1) s e k).range.last ≤ e) := by
  obtain ⟨starts, ends⟩ := aligned_window pos from_first to_last
  refine ⟨by simp only [ChunkSpec.isWhole, beq_iff_eq]; exact eq_comm, ?_⟩
  simp only [alignedChunk, ByteRange.mk.injEq]
  omega

/-- The numbers of a chunk between those of `s` and `e` of a file of less than `2^64` bytes
fit a word. -/
theorem alignedChunk_inWords (pos : 0 < c) (ordered : s ≤ e) (inside : e < size)
    (word : size < wordBound) (from_first : s / c ≤ k) (to_last : k ≤ e / c) :
    (alignedChunk c (size - 1) s e k).index * c < wordBound ∧
      (alignedChunk c (size - 1) s e k).wanted.last -
          (alignedChunk c (size - 1) s e k).range.first + 1 < wordBound ∧
      (alignedChunk c (size - 1) s e k).wanted.size =
        .ok (alignedChunk c (size - 1) s e k).wanted.length := by
  obtain ⟨starts, ends⟩ := aligned_window pos from_first to_last
  refine ⟨by simp only [alignedChunk]; omega, by simp only [alignedChunk]; omega, ?_⟩
  exact ByteRange.size_of_le (by simp only [alignedChunk]; omega) (by simp only [alignedChunk]; omega)

end Window

/-! ## The chunks in order -/

section Order

variable {c s e : Nat}

/-- The wanted parts of consecutive chunks meet: each stops just before the next starts. -/
theorem alignedChunks_adjacent (pos : 0 < c) (lastByte : Nat) :
    (alignedChunks c lastByte s e).IsChain fun a b => a.wanted.last + 1 = b.wanted.first := by
  rw [List.isChain_iff_getElem]
  intro i below
  simp only [alignedChunks, List.length_map, List.length_range'] at below
  simp only [alignedChunks, List.getElem_map, List.getElem_range', Nat.one_mul, alignedChunk]
  -- chunk `k` is not the last, so it is wanted to its window's end, and chunk `k + 1` from
  -- its window's start
  obtain ⟨starts, ends⟩ := aligned_window pos (Nat.le_add_right (s / c) i)
    (show s / c + i ≤ e / c by omega)
  obtain ⟨next_starts, -⟩ := aligned_window pos (Nat.le_add_right (s / c) (i + 1))
    (show s / c + (i + 1) ≤ e / c by omega)
  have next_window : (s / c + (i + 1)) * c = (s / c + i) * c + c := by
    rw [← Nat.add_assoc, Nat.succ_mul]
  omega

/-- The first wanted part starts at `s`. -/
theorem alignedChunks_starts (lastByte : Nat) :
    (alignedChunks c lastByte s e).head?.map (·.wanted.first) = some s := by
  simp only [alignedChunks, List.range'_succ, List.map_cons, List.head?_cons, Option.map_some,
    alignedChunk, Option.some.injEq]
  have aligned : s / c * c ≤ s := Nat.div_mul_le_self s c
  omega

/-- The last wanted part stops at `e`. -/
theorem alignedChunks_stops (pos : 0 < c) (lastByte : Nat) (ordered : s ≤ e) :
    (alignedChunks c lastByte s e).getLast?.map (·.wanted.last) = some e := by
  have chunks : s / c ≤ e / c := Nat.div_le_div_right ordered
  have last : s / c + (e / c - s / c) = e / c := by omega
  simp only [alignedChunks, List.range'_concat, List.map_append, List.getLast?_append,
    List.map_cons, List.map_nil, List.getLast?_singleton, Option.some_or, Option.map_some,
    Nat.one_mul, last, alignedChunk, Option.some.injEq]
  have beyond : e < e / c * c + c := Nat.lt_div_mul_add pos
  omega

/-- The wanted parts of the chunks from index `a` on add up to the wanted bytes from the
start of chunk `a` (or from `s`, if later) to `e`. -/
theorem alignedChunks_total_from (pos : 0 < c) (lastByte : Nat) :
    ∀ n a, s / c ≤ a → a + n = e / c + 1 →
      ((List.range' a n).map fun k => (alignedChunk c lastByte s e k).wanted.length).foldr (· + ·) 0 =
        e + 1 - max s (a * c)
  | 0, a, _, past => by
    -- past the chunk of `e` nothing is wanted
    have beyond : e < (e / c + 1) * c := by rw [Nat.succ_mul]; exact Nat.lt_div_mul_add pos
    rw [Nat.add_zero] at past
    subst past
    simp only [List.range'_zero, List.map_nil, List.foldr_nil]
    omega
  | n + 1, a, from_first, last => by
    obtain ⟨starts, ends⟩ := aligned_window pos from_first (show a ≤ e / c by omega)
    have rest := alignedChunks_total_from pos lastByte n (a + 1) (by omega) (by omega)
    rw [List.range'_succ, List.map_cons, List.foldr_cons, rest, Nat.succ_mul]
    simp only [alignedChunk, ByteRange.length]
    omega

/-- The wanted parts add up to the bytes of `s..e`. -/
theorem alignedChunks_total (pos : 0 < c) (lastByte : Nat) (ordered : s ≤ e) :
    ((alignedChunks c lastByte s e).map (·.wanted.length)).foldr (· + ·) 0 = e - s + 1 := by
  have chunks : s / c ≤ e / c := Nat.div_le_div_right ordered
  have aligned : s / c * c ≤ s := Nat.div_mul_le_self s c
  have sum := alignedChunks_total_from (s := s) (e := e) pos lastByte (e / c - s / c + 1) (s / c)
    (Nat.le_refl _)
    (by omega)
  rw [alignedChunks, List.map_map]
  refine sum.trans ?_
  omega

end Order

/-! ## Plans of a read -/

/-- A read of a non-empty file that starts inside it is planned with the chunk size in use,
the last byte, the wanted bytes and the indices of their first and last chunks. -/
theorem make_eq (cs : Nat) {size : Nat} {requested : Option ByteRange} (nonempty : 0 < size)
    (starts : ∀ r ∈ requested, r.first < size) :
    make cs size requested =
      .ok ⟨effectiveSize cs, size - 1, ⟨(wantedBounds size requested).1, (wantedBounds size requested).2⟩,
        some ((wantedBounds size requested).1 / effectiveSize cs,
          (wantedBounds size requested).2 / effectiveSize cs)⟩ := by
  have nonzero : (size == 0) = false := by simp only [beq_eq_false_iff_ne]; omega
  cases requested with
  | none => simp [make, nonzero, wantedBounds, Except.map]
  | some r =>
    have inside : ¬ r.first ≥ size := Nat.not_le.mpr (starts r rfl)
    simp [make, nonzero, inside, wantedBounds, Except.map]

/-- The chunks of a made plan are the aligned chunks of its wanted bytes. -/
theorem toList_eq_alignedChunks {c size s e : Nat} (pos : 0 < c) (ordered : s ≤ e) (inside : e < size)
    (word : size ≤ wordBound) :
    (⟨c, size - 1, ⟨s, e⟩, some (s / c, e / c)⟩ : ChunkPlan).toList = alignedChunks c (size - 1) s e := by
  rw [toList_of_pending rfl, alignedChunks,
    show e / c + 1 - s / c = e / c - s / c + 1 from Nat.sub_add_comm (Nat.div_le_div_right ordered)]
  congr 1
  funext k
  -- the word bound never cuts a window: the file ends first
  simp only [spec, alignedChunk, wordMax, ChunkSpec.mk.injEq, ByteRange.mk.injEq, true_and]
  omega

/-- A whole file has as many chunks as the last byte's index plus one. -/
theorem totalChunks_eq {cs size : Nat} (nonempty : 0 < size) :
    totalChunks cs size = (size - 1) / effectiveSize cs + 1 := by
  have pos : 0 < effectiveSize cs := by simp only [effectiveSize]; omega
  rw [totalChunks, show size + effectiveSize cs - 1 = size - 1 + effectiveSize cs by omega,
    Nat.add_div_right _ pos]

/-- The aligned chunks of a read of the bytes `s..e` of a file tile those bytes. -/
theorem alignedChunks_tiles {c size s e : Nat} (pos : 0 < c) (ordered : s ≤ e) (inside : e < size) :
    Tiles size s e (alignedChunks c (size - 1) s e) := by
  refine ⟨fun sp mem => ?_, alignedChunks_adjacent pos _, alignedChunks_starts _,
    alignedChunks_stops pos _ ordered, alignedChunks_total pos _ ordered, fun sp mem => ?_,
    fun sp mem => ?_⟩ <;>
    obtain ⟨k, from_first, to_last, rfl⟩ := mem_alignedChunks ordered mem
  · exact alignedChunk_within pos ordered inside from_first to_last
  · exact offsets_of_within (alignedChunk_within pos ordered inside from_first to_last)
  · exact alignedChunk_whole pos inside from_first to_last

/-- The numbers computed for the aligned chunks of a file of less than `2^64` bytes fit a
word. -/
theorem alignedChunks_inWords {c size s e : Nat} (pos : 0 < c) (ordered : s ≤ e) (inside : e < size)
    (word : size < wordBound) : InWords c (alignedChunks c (size - 1) s e) := by
  refine ⟨fun sp mem => ?_, fun sp mem => ?_, fun sp mem => ?_⟩ <;>
    obtain ⟨k, from_first, to_last, rfl⟩ := mem_alignedChunks ordered mem
  · exact (alignedChunk_inWords pos ordered inside word from_first to_last).1
  · exact (alignedChunk_inWords pos ordered inside word from_first to_last).2.1
  · exact (alignedChunk_inWords pos ordered inside word from_first to_last).2.2

/-- The plan of a read of the bytes `s..e` of a file of `size` bytes, for a chunk size `cs`
(`c` in use): taking its chunks from the front yields the aligned chunks of `s..e`, then
nothing; it counts one chunk per index from that of `s` to that of `e` (every chunk of the
file when the whole file is read), a count that fits a word; the wanted parts tile `s..e`;
and every number computed for the chunks fits a word. -/
structure AlignedPlan (cs size s e : Nat) (requested : Option ByteRange) (p : ChunkPlan) : Prop where
  yields : (p.walk (List.replicate (p.remaining + 1) .front)).1 =
    (alignedChunks (effectiveSize cs) (size - 1) s e).map some ++ [none]
  count : p.remaining = e / effectiveSize cs - s / effectiveSize cs + 1
  whole : requested = none → p.remaining = totalChunks cs size
  fits : p.remaining < wordBound
  tiles : Tiles size s e (alignedChunks (effectiveSize cs) (size - 1) s e)
  words : InWords (effectiveSize cs) (alignedChunks (effectiveSize cs) (size - 1) s e)

/-- A read of a non-empty file of less than `2^64` bytes, of the whole file or of a range
`first..last` with `first ≤ last` that starts inside it, is planned, and its plan is the
aligned plan of the bytes `s..e` it wants. -/
theorem make_plans_aligned_chunks {cs size s e : Nat} {requested : Option ByteRange}
    (word : size < wordBound) (nonempty : 0 < size)
    (asked : ∀ r ∈ requested, r.first ≤ r.last ∧ r.first < size)
    (bounds : wantedBounds size requested = (s, e)) :
    ∃ p, make cs size requested = .ok p ∧ AlignedPlan cs size s e requested p := by
  have pos : 0 < effectiveSize cs := by simp only [effectiveSize]; omega
  -- the wanted bytes lie in the file, in order
  have ordered : s ≤ e ∧ e < size := by
    cases requested with
    | none => simp only [wantedBounds, Prod.mk.injEq] at bounds; omega
    | some r =>
      have := asked r rfl
      simp only [wantedBounds, Prod.mk.injEq] at bounds
      omega
  have planned := make_eq cs nonempty fun r mem => (asked r mem).2
  rw [bounds] at planned
  have listed := toList_eq_alignedChunks pos ordered.1 ordered.2 (Nat.le_of_lt word)
  have count : (⟨effectiveSize cs, size - 1, ⟨s, e⟩, some (s / effectiveSize cs, e / effectiveSize cs)⟩ :
      ChunkPlan).remaining = e / effectiveSize cs - s / effectiveSize cs + 1 := by
    rw [← length_toList, listed, alignedChunks, List.length_map, List.length_range']
  have fits := remaining_make_le planned
  refine ⟨_, planned, ⟨?_, count, ?_, by omega, alignedChunks_tiles pos ordered.1 ordered.2,
    alignedChunks_inWords pos ordered.1 ordered.2 word⟩⟩
  · -- the calls take every chunk, and the one after the last answers nothing
    rw [walk_fronts, listed, ← length_toList, listed, List.take_of_length_le (by omega),
      Nat.add_sub_cancel_left]
    rfl
  · intro whole
    subst whole
    simp only [wantedBounds, Prod.mk.injEq] at bounds
    obtain ⟨rfl, rfl⟩ := bounds
    rw [count, totalChunks_eq nonempty, Nat.zero_div, Nat.sub_zero]

/-- The last byte but one of a file of `2^64 - 1` bytes, in chunks of a thousand bytes, which
do not divide the size: the aligned window of its chunk would pass the largest word. -/
theorem last_byte_of_largest_file_planned :
    wordMax < wordBound ∧ 0 < wordMax ∧
      (∀ r ∈ some (⟨wordMax - 1, wordMax - 1⟩ : ByteRange), r.first ≤ r.last ∧ r.first < wordMax) ∧
      wantedBounds wordMax (some ⟨wordMax - 1, wordMax - 1⟩) = (wordMax - 1, wordMax - 1) ∧
      ∃ p, make 1000 wordMax (some ⟨wordMax - 1, wordMax - 1⟩) = .ok p ∧
        AlignedPlan 1000 wordMax (wordMax - 1) (wordMax - 1) (some ⟨wordMax - 1, wordMax - 1⟩) p := by
  have word : wordMax < wordBound := by decide
  have nonempty : 0 < wordMax := by decide
  have asked : ∀ r ∈ some (⟨wordMax - 1, wordMax - 1⟩ : ByteRange),
      r.first ≤ r.last ∧ r.first < wordMax := by
    intro r mem
    cases mem
    exact ⟨Nat.le_refl _, by decide⟩
  have bounds : wantedBounds wordMax (some ⟨wordMax - 1, wordMax - 1⟩) = (wordMax - 1, wordMax - 1) := by
    decide
  exact ⟨word, nonempty, asked, bounds, make_plans_aligned_chunks word nonempty asked bounds⟩

end ChunkProxy.ChunkPlan
