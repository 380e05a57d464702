import ChunkProxy.Proofs.ChunkLayout
/-!
# Chunk plans of any range stay in their words

A `ByteRange` is a plain record, so a caller may hand the planner a range that starts after
it ends: the planner refuses only a start at or past the end of the file, and plans every
other range from the index of its first byte to the index of its last.  This module follows
every range, ordered or not, through every sequence of calls on its plan.

Any call answers one of the plan's pending chunks (`take_mem_toList`) and leaves some of
them (`toList_take_sublist`), so every chunk that any sequence of calls answers is a chunk of
the plan (`mem_toList_of_walk`): the chunk of an index between those of the first and the
last wanted byte (`mem_toList_of_pending`), which is its aligned chunk (`spec_planOf`)
whichever way the wanted bytes run.  The window fact of the aligned layout (`aligned_window`)
needs no order between those two bytes either, so each such chunk is `Bounded`: its first
byte and both wanted offsets are computed without leaving a 64-bit word or going below zero,
and its wanted part starts and stops inside it (`spec_bounded`).

The wanted part is in order exactly when the range is.  An ordered range gives wanted
offsets `a < b`, as the aligned layout already says (`spec_ordered`).  A range that starts
after it ends is planned as no chunk when its two ends fall in different chunks, and as the
one chunk that holds both when they fall in one (`remaining_of_inverted`); that chunk wants
the range itself, so its wanted offsets are inverted by the bytes strictly between the two
ends (`spec_inverted`).

Main statement: `plan_chunks_stay_in_words`.  `inverted_range_inside_chunk` plans bytes
`5..3` of a hundred-byte file in chunks of ten as the chunk `0..9` wanting `5..3`, with the
offsets `(5, 4)`.
-/

namespace ChunkProxy

set_option autoImplicit false

/-- What the code computes for one chunk stays in a 64-bit word and never goes below zero:
the first byte `index · c` of the chunk, and the wanted offsets `wanted.first - range.first`
and `wanted.last - range.first + 1`; and both ends of the wanted part lie in the chunk. -/
structure ChunkSpec.Bounded (c : Nat) (sp : ChunkSpec) : Prop where
  start : sp.index * c < wordBound
  first_from : sp.range.first ≤ sp.wanted.first
  first_to : sp.wanted.first ≤ sp.range.last
  last_from : sp.range.first ≤ sp.wanted.last
  last_to : sp.wanted.last ≤ sp.range.last
  offset : sp.wanted.last - sp.range.first + 1 < wordBound

namespace ChunkPlan

/-! ## Chunks answered by any calls -/

/-- A call answers a pending chunk. -/
theorem take_mem_toList (p : ChunkPlan) (e : End) {sp : ChunkSpec} (answered : (p.take e).1 = some sp) :
    sp ∈ p.toList := by
  cases e with
  | front =>
    rw [take, (next_toList p).1] at answered
    exact List.mem_of_mem_head? answered
  | back =>
    rw [take, (nextBack_toList p).1] at answered
    exact List.mem_of_getLast? answered

/-- A call leaves some of the pending chunks. -/
theorem toList_take_sublist (p : ChunkPlan) (e : End) : (p.take e).2.toList.Sublist p.toList := by
  cases e with
  | front =>
    rw [take, (next_toList p).2]
    exact List.tail_sublist _
  | back =>
    rw [take, (nextBack_toList p).2]
    exact List.dropLast_sublist _

/-- Every chunk that a sequence of calls answers is a chunk of the plan. -/
theorem mem_toList_of_walk (p : ChunkPlan) (steps : List End) {sp : ChunkSpec}
    (answered : some sp ∈ (p.walk steps).1) : sp ∈ p.toList := by
  induction steps generalizing p with
  | nil => simp at answered
  | cons e es ih =>
    rw [walk_cons, List.mem_cons] at answered
    rcases answered with first | later
    · exact take_mem_toList p e first.symm
    · exact (toList_take_sublist p e).subset (ih _ later)

/-- A pending chunk is the chunk of an index between the pending bounds. -/
theorem mem_toList_of_pending {p : ChunkPlan} {lo hi : Nat} (pending : p.pending = some (lo, hi))
    {sp : ChunkSpec} (mem : sp ∈ p.toList) : ∃ k, lo ≤ k ∧ k ≤ hi ∧ sp = p.spec k := by
  rw [toList_of_pending pending, List.mem_map] at mem
  obtain ⟨k, range, rfl⟩ := mem
  rw [List.mem_range'_1] at range
  exact ⟨k, range.1, by omega, rfl⟩

/-! ## Plans of any range -/

/-- The plan of the bytes `s..e` of a file of `size` bytes in chunks of `c`: the last byte, the
wanted bytes, and the indices of the chunks of `s` and `e`. -/
def planOf (c size s e : Nat) : ChunkPlan := ⟨c, size - 1, ⟨s, e⟩, some (s / c, e / c)⟩

/-- A plan is made for an empty file with nothing pending, or for a read that starts inside
a non-empty file with the chunks from the index of its first wanted byte to that of its
last; nothing else is planned. -/
theorem make_ok_cases {cs size : Nat} {requested : Option ByteRange} {p : ChunkPlan}
    (planned : make cs size requested = .ok p) :
    (size = 0 ∧ p.pending = none) ∨
    (0 < size ∧ (wantedBounds size requested).1 < size ∧
      p = planOf (effectiveSize cs) size (wantedBounds size requested).1
        (wantedBounds size requested).2) := by
  by_cases empty : size = 0
  · subst empty
    simp only [make, beq_self_eq_true, if_true, Except.ok.injEq] at planned
    exact .inl ⟨rfl, by rw [← planned]⟩
  have nonempty : 0 < size := Nat.pos_of_ne_zero empty
  -- a start at or past the end is refused
  have starts : ∀ r ∈ requested, r.first < size := by
    intro r mem
    cases mem
    refine Nat.lt_of_not_le fun beyond => ?_
    have nonzero : (size == 0) = false := by simpa using empty
    simp [make, nonzero, beyond, Except.map] at planned
  rw [make_eq cs nonempty starts, Except.ok.injEq] at planned
  refine .inr ⟨nonempty, ?_, planned.symm⟩
  cases requested with
  | none => simp only [wantedBounds]; omega
  | some r => exact starts r rfl

/-- A read is planned unless it starts at or past the end of a non-empty file. -/
theorem make_ok_or_beyond (cs size : Nat) (requested : Option ByteRange) :
    (∃ p, make cs size requested = .ok p) ∨ ∃ r ∈ requested, 0 < size ∧ size ≤ r.first := by
  by_cases empty : size = 0
  · subst empty
    exact .inl ⟨_, rfl⟩
  by_cases beyond : ∃ r ∈ requested, size ≤ r.first
  · obtain ⟨r, mem, past⟩ := beyond
    exact .inr ⟨r, mem, Nat.pos_of_ne_zero empty, past⟩
  · refine .inl ⟨_, make_eq cs (Nat.pos_of_ne_zero empty) fun r mem => ?_⟩
    exact Nat.lt_of_not_le fun past => beyond ⟨r, mem, past⟩

/-- The last wanted byte of a read of a non-empty file lies in the file. -/
theorem wantedBounds_snd_lt {size : Nat} (requested : Option ByteRange) (nonempty : 0 < size) :
    (wantedBounds size requested).2 < size := by
  cases requested <;> simp only [wantedBounds] <;> omega

/-- A read that starts after it ends has one chunk when both its ends fall in one chunk, and
none otherwise. -/
theorem remaining_of_inverted (c size : Nat) {s e : Nat} (inverted : e < s) :
    (planOf c size s e).remaining ≤ 1 ∧ ((planOf c size s e).remaining = 1 ↔ s / c = e / c) := by
  have down : e / c ≤ s / c := Nat.div_le_div_right (Nat.le_of_lt inverted)
  simp only [remaining, planOf]
  split <;> omega

section Window

variable {c size s e k : Nat}

/-- Below `2^64` bytes the word bound never cuts a chunk of a plan: the chunk of an index is its
aligned window, cut at the last byte, whichever way the wanted bytes run. -/
theorem spec_planOf (pos : 0 < c) (word : size < wordBound) (ends : e < size) :
    (planOf c size s e).spec k = alignedChunk c (size - 1) s e k := by
  simp only [spec, planOf, alignedChunk, wordMax, ChunkSpec.mk.injEq, ByteRange.mk.injEq,
    true_and]
  omega

/-- Every chunk of the plan of bytes `s..e` of a file of less than `2^64` bytes is bounded,
whether or not `s ≤ e`. -/
theorem spec_bounded (pos : 0 < c) (word : size < wordBound) (starts : s < size) (ends : e < size)
    (from_first : s / c ≤ k) (to_last : k ≤ e / c) : ((planOf c size s e).spec k).Bounded c := by
  -- the chunk's window `k·c .. k·c + c - 1` holds a byte at or before `e` and one past `s`
  obtain ⟨window_start, window_end⟩ := aligned_window pos from_first to_last
  rw [spec_planOf pos word ends]
  constructor <;> simp only [alignedChunk] <;> omega

/-- The wanted part of a chunk of an ordered read is in order, so its offsets are too. -/
theorem spec_ordered (pos : 0 < c) (word : size < wordBound) (ordered : s ≤ e) (ends : e < size)
    (from_first : s / c ≤ k) (to_last : k ≤ e / c) :
    ((planOf c size s e).spec k).wanted.first ≤ ((planOf c size s e).spec k).wanted.last ∧
      ((planOf c size s e).spec k).offsets.1 < ((planOf c size s e).spec k).offsets.2 := by
  have within := alignedChunk_within pos ordered ends from_first to_last
  rw [spec_planOf pos word ends]
  exact ⟨within.ordered, (offsets_of_within within).1⟩

/-- The one chunk a read that starts after it ends can have is the chunk of both its ends,
and it wants exactly those ends, in their inverted order. -/
theorem spec_inverted (pos : 0 < c) (word : size < wordBound) (starts : s < size)
    (inverted : e < s) (from_first : s / c ≤ k) (to_last : k ≤ e / c) :
    k = s / c ∧ ((planOf c size s e).spec k).wanted = ⟨s, e⟩ ∧
      ((planOf c size s e).spec k).offsets.1 =
        ((planOf c size s e).spec k).offsets.2 + (s - (e + 1)) := by
  -- the index of the end is at most that of the start, so both are the chunk's
  have down : e / c ≤ s / c := Nat.div_le_div_right (Nat.le_of_lt inverted)
  have same : k = s / c := Nat.le_antisymm (Nat.le_trans to_last down) from_first
  obtain ⟨window_start, window_end⟩ := aligned_window pos from_first to_last
  rw [spec_planOf pos word (Nat.lt_trans inverted starts)]
  refine ⟨same, ?_, ?_⟩
  · simp only [alignedChunk, ByteRange.mk.injEq]
    omega
  · simp only [alignedChunk, ChunkSpec.offsets]
    omega

end Window

/-! ## Main statement -/

/-- What a read of `requested` from a file of `size` bytes in chunks of `cs` bytes comes to,
whatever range it asks for and whatever calls take its chunks: it is planned unless it starts
at or past the end of the file; the chunks left never outnumber the bytes of the file; every
chunk answered is `Bounded`; an ordered range (or none) gives ordered wanted parts and
offsets `a < b`; and a range that starts after it ends gives at most one chunk, one exactly
when both ends fall in one chunk, whose wanted part is the range itself and whose offsets are
inverted by the bytes strictly between the two ends. -/
structure SafePlan (cs size : Nat) (requested : Option ByteRange) : Prop where
  planned : (∃ p, make cs size requested = .ok p) ∨ ∃ r ∈ requested, 0 < size ∧ size ≤ r.first
  counted : ∀ p, make cs size requested = .ok p → ∀ steps, (p.walk steps).2.remaining ≤ size
  bounded : ∀ p, make cs size requested = .ok p → ∀ steps sp, some sp ∈ (p.walk steps).1 →
    sp.Bounded (effectiveSize cs)
  ordered : (∀ r ∈ requested, r.first ≤ r.last) → ∀ p, make cs size requested = .ok p →
    ∀ steps sp, some sp ∈ (p.walk steps).1 →
      sp.wanted.first ≤ sp.wanted.last ∧ sp.offsets.1 < sp.offsets.2
  inverted : ∀ r ∈ requested, r.last < r.first → ∀ p, make cs size requested = .ok p →
    p.remaining ≤ 1 ∧
    (p.remaining = 1 ↔ 0 < size ∧ r.first / effectiveSize cs = r.last / effectiveSize cs) ∧
    ∀ steps sp, some sp ∈ (p.walk steps).1 →
      sp.wanted = r ∧ sp.offsets.1 = sp.offsets.2 + (r.first - (r.last + 1))

/-- A chunk answered by calls on a plan made for a non-empty file is the chunk of an index
between those of the first and the last wanted byte. -/
theorem answered_of_make {cs size : Nat} {requested : Option ByteRange} {p : ChunkPlan}
    (planned : make cs size requested = .ok p) {steps : List End} {sp : ChunkSpec}
    (answered : some sp ∈ (p.walk steps).1) :
    0 < size ∧ (wantedBounds size requested).1 < size ∧
      p = planOf (effectiveSize cs) size (wantedBounds size requested).1
        (wantedBounds size requested).2 ∧
      ∃ k, (wantedBounds size requested).1 / effectiveSize cs ≤ k ∧
        k ≤ (wantedBounds size requested).2 / effectiveSize cs ∧ sp = p.spec k := by
  have mem := mem_toList_of_walk p steps answered
  rcases make_ok_cases planned with ⟨-, none⟩ | ⟨nonempty, starts, rfl⟩
  · simp [toList, none] at mem
  · exact ⟨nonempty, starts, rfl, mem_toList_of_pending rfl mem⟩

/-- Every read of a file of less than `2^64` bytes, of any range, comes to a `SafePlan`. -/
theorem plan_chunks_stay_in_words (cs : Nat) {size : Nat} (requested : Option ByteRange)
    (word : size < wordBound) : SafePlan cs size requested := by
  have pos : 0 < effectiveSize cs := by simp only [effectiveSize]; omega
  refine ⟨make_ok_or_beyond cs size requested, fun p planned steps => ?_, ?_, ?_, ?_⟩
  · have left := walk_remaining p steps
    have most := remaining_make_le planned
    omega
  · intro p planned steps sp answered
    obtain ⟨nonempty, starts, rfl, k, from_first, to_last, rfl⟩ := answered_of_make planned answered
    exact spec_bounded pos word starts (wantedBounds_snd_lt _ nonempty) from_first to_last
  · intro ordered p planned steps sp answered
    obtain ⟨nonempty, starts, rfl, k, from_first, to_last, rfl⟩ := answered_of_make planned answered
    have in_order : (wantedBounds size requested).1 ≤ (wantedBounds size requested).2 := by
      cases requested with
      | none => simp only [wantedBounds]; omega
      | some r =>
        have := ordered r rfl
        simp only [wantedBounds] at starts ⊢
        omega
    exact spec_ordered pos word in_order (wantedBounds_snd_lt _ nonempty) from_first to_last
  · intro r mem inverted p planned
    cases mem
    rcases make_ok_cases planned with ⟨empty, none⟩ | ⟨nonempty, starts, rfl⟩
    · -- an empty file has nothing to take
      have nothing : p.remaining = 0 := by simp [remaining, none]
      refine ⟨by omega, by simp [nothing, empty], fun steps sp answered => ?_⟩
      have := mem_toList_of_walk p steps answered
      simp [toList, none] at this
    · -- the end is not cut: it lies before the start, inside the file
      have bounds : wantedBounds size (some r) = (r.first, r.last) := by
        simp only [wantedBounds] at starts ⊢
        rw [Nat.min_eq_left (by omega)]
      simp only [bounds] at starts ⊢
      obtain ⟨most, one⟩ := remaining_of_inverted (effectiveSize cs) size inverted
      refine ⟨most, by rw [one]; simp [nonempty], fun steps sp answered => ?_⟩
      obtain ⟨k, from_first, to_last, rfl⟩ :=
        mem_toList_of_pending rfl (mem_toList_of_walk _ steps answered)
      obtain ⟨-, wanted, offsets⟩ := spec_inverted pos word starts inverted from_first to_last
      exact ⟨wanted, offsets⟩

/-- Bytes `5..3` of a hundred-byte file, in chunks of ten: a range that starts after it ends,
inside one chunk. -/
theorem inverted_read_planned : 100 < wordBound ∧ SafePlan 10 100 (some ⟨5, 3⟩) :=
  ⟨by decide, plan_chunks_stay_in_words 10 (some ⟨5, 3⟩) (by decide)⟩

/-- Bytes `5..3` of a hundred-byte file, in chunks of ten, are planned as the chunk `0..9`
wanting `5..3`: its wanted part runs backwards, and its offsets `(5, 4)` would cut from the
sixth byte of the chunk to the fifth. -/
theorem inverted_range_inside_chunk :
    ∃ p, make 10 100 (some ⟨5, 3⟩) = .ok p ∧ p.next.1 = some ⟨0, ⟨0, 9⟩, ⟨5, 3⟩⟩ ∧
      ChunkSpec.offsets ⟨0, ⟨0, 9⟩, ⟨5, 3⟩⟩ = (5, 4) :=
  ⟨_, rfl, rfl, rfl⟩

end ChunkPlan

end ChunkProxy
