import ChunkProxy.Proofs.ChunkCover
import Mathlib.Data.List.Basic
/-!
# Taking chunks from both ends of a plan

A plan hands out its chunks from both ends: `next` takes the first pending chunk and
`nextBack` the last.  Seen through `toList`, a plan is a double-ended queue of the chunks
still pending: `next` answers the head of that list and leaves its tail (`next_toList`),
`nextBack` answers its last element and leaves the rest (`nextBack_toList`), and an empty
plan answers nothing and stays empty.  The pending chunks are listed by increasing index
(`toList_index_sorted`).

A caller makes any sequence of calls (`walk`).  From the two step lemmas, by induction on the
calls:

* the chunks taken from the front, then those still pending, then those taken from the back
  read in reverse, are the plan's chunks (`walk_partition`), so no chunk is answered twice
  and none is skipped;
* the first `min n r` of `n` calls on a plan of `r` chunks answer a chunk and every later
  call answers nothing (`walk_answers`);
* the count that remains is the initial count less the chunks answered (`walk_remaining`).

Main statement (`walk_takes_from_both_ends`): all of this holds of a plan made for a read of
a file of less than `2^64` bytes, whose size hint is, after every call, the count that
remains as both bounds.
-/

namespace ChunkProxy.ChunkPlan

set_option autoImplicit false

/-- The end of a plan that a call takes from. -/
inductive End where
  | front
  | back
  deriving DecidableEq, Repr

/-- One call on a plan: its answer and the plan after it. -/
def take (p : ChunkPlan) : End → Option ChunkSpec × ChunkPlan
  | .front => p.next
  | .back => p.nextBack

/-- A sequence of calls: the answers in order, and the plan after the last call. -/
def walk (p : ChunkPlan) : List End → List (Option ChunkSpec) × ChunkPlan
  | [] => ([], p)
  | e :: es => ((p.take e).1 :: ((p.take e).2.walk es).1, ((p.take e).2.walk es).2)

/-- The chunks that the calls at one end answered, in the order answered. -/
def takenAt (e : End) : List End → List (Option ChunkSpec) → List ChunkSpec
  | s :: ss, o :: os => (if s = e then o.toList else []) ++ takenAt e ss os
  | _, _ => []

@[simp] theorem walk_nil (p : ChunkPlan) : p.walk [] = ([], p) := rfl

@[simp] theorem walk_cons (p : ChunkPlan) (e : End) (es : List End) :
    p.walk (e :: es) = ((p.take e).1 :: ((p.take e).2.walk es).1, ((p.take e).2.walk es).2) := rfl

/-! ## One call -/

/-- The pending chunks of the indices `lo..hi`. -/
theorem toList_of_pending {p : ChunkPlan} {lo hi : Nat} (pending : p.pending = some (lo, hi)) :
    p.toList = (List.range' lo (hi + 1 - lo)).map p.spec := by
  simp only [toList, pending, List.range'_eq_map_range, List.map_map]
  rfl

/-- The pending chunks are listed by increasing index. -/
theorem toList_index_sorted (p : ChunkPlan) : (p.toList.map ChunkSpec.index).Pairwise (· < ·) := by
  cases pending : p.pending with
  | none => simp [toList, pending]
  | some bounds =>
    obtain ⟨lo, hi⟩ := bounds
    rw [toList_of_pending pending, List.map_map]
    -- the chunk of index `k` has index `k`
    have indexed : ChunkSpec.index ∘ p.spec = id := rfl
    rw [indexed, List.map_id]
    exact List.pairwise_lt_range' 1 Nat.one_pos

/-- `next` answers the first pending chunk and leaves the others. -/
theorem next_toList (p : ChunkPlan) : p.next.1 = p.toList.head? ∧ p.next.2.toList = p.toList.tail := by
  cases taken : p.next with
  | mk answer rest =>
    cases answer with
    | some sp => simp [toList_of_next_some taken]
    | none =>
      obtain ⟨empty, left⟩ := toList_of_next_none taken
      simp [empty, left]

/-- `nextBack` answers the last pending chunk and leaves the others. -/
theorem nextBack_toList (p : ChunkPlan) :
    p.nextBack.1 = p.toList.getLast? ∧ p.nextBack.2.toList = p.toList.dropLast := by
  unfold nextBack
  split
  · rename_i lo hi pending
    rw [toList_of_pending pending]
    split
    · -- `hi` is taken, and `lo..hi - 1` stay pending
      rename_i before
      have rest : ({ p with pending := some (lo, hi - 1) } : ChunkPlan).toList =
          (List.range' lo (hi - lo)).map p.spec := by
        rw [toList_of_pending rfl, show hi - 1 + 1 - lo = hi - lo by omega]
        rfl
      rw [show hi + 1 - lo = (hi - lo) + 1 by omega, List.range'_concat, List.map_append, rest,
        Nat.one_mul, show lo + (hi - lo) = hi by omega]
      simp
    · split
      · -- the one chunk left is taken
        rename_i last
        have same : lo = hi := beq_iff_eq.mp last
        subst same
        simp [toList]
      · -- no index is left between the bounds
        rename_i after differ
        have empty : hi + 1 - lo = 0 := by simp only [beq_iff_eq] at differ; omega
        simp [toList_of_pending pending, empty]
  · rename_i pending
    simp [toList, pending]

/-- The last element of a list, after the others, is the list. -/
theorem dropLast_append_getLast?_toList {α : Type} (l : List α) :
    l.dropLast ++ l.getLast?.toList = l := by
  cases last : l.getLast? with
  | none => simp_all
  | some a => simpa using List.dropLast_append_getLast? a last

theorem reverse_toList_option {α : Type} (o : Option α) : o.toList.reverse = o.toList := by
  cases o <;> rfl

/-- A call answers a chunk exactly when one is pending, and leaves one fewer. -/
theorem take_isSome (p : ChunkPlan) (e : End) :
    (p.take e).1.isSome = decide (0 < p.toList.length) ∧
      (p.take e).2.toList.length = p.toList.length - 1 := by
  cases e with
  | front =>
    obtain ⟨answer, left⟩ := next_toList p
    simp only [take, answer, left]
    cases p.toList <;> simp
  | back =>
    obtain ⟨answer, left⟩ := nextBack_toList p
    simp only [take, answer, left, List.length_dropLast]
    cases p.toList <;> simp

/-! ## A sequence of calls -/

/-- The chunks taken from the front, those still pending, and those taken from the back in
reverse, are the plan's chunks. -/
theorem walk_partition (p : ChunkPlan) (steps : List End) :
    takenAt .front steps (p.walk steps).1 ++ (p.walk steps).2.toList ++
      (takenAt .back steps (p.walk steps).1).reverse = p.toList := by
  induction steps generalizing p with
  | nil => simp [takenAt]
  | cons e es ih =>
    have later := ih (p.take e).2
    cases e with
    | front =>
      obtain ⟨answer, left⟩ := next_toList p
      simp only [walk_cons, takenAt, if_pos, reduceCtorEq, if_false, List.nil_append,
        List.append_assoc] at later ⊢
      rw [later]
      simp only [take, answer, left]
      cases p.toList <;> simp
    | back =>
      obtain ⟨answer, left⟩ := nextBack_toList p
      simp only [walk_cons, takenAt, if_pos, reduceCtorEq, if_false, List.nil_append,
        List.reverse_append, ← List.append_assoc] at later ⊢
      rw [later, reverse_toList_option]
      simp only [take, answer, left]
      exact dropLast_append_getLast?_toList p.toList

/-- Of `n` calls on a plan of `r` chunks, the first `min n r` answer a chunk and the others
answer nothing. -/
theorem walk_answers (p : ChunkPlan) (steps : List End) :
    (p.walk steps).1.map Option.isSome =
      List.replicate (min steps.length p.remaining) true ++
        List.replicate (steps.length - p.remaining) false := by
  rw [← length_toList]
  induction steps generalizing p with
  | nil => simp
  | cons e es ih =>
    obtain ⟨answers, fewer⟩ := take_isSome p e
    simp only [walk_cons, List.map_cons, ih, fewer, answers, List.length_cons]
    by_cases empty : p.toList.length = 0
    · simp [empty, List.replicate_succ]
    · -- the call answers, and one chunk fewer is left for the others
      have more : min (es.length + 1) p.toList.length = min es.length (p.toList.length - 1) + 1 := by
        omega
      rw [more, List.replicate_succ, show es.length + 1 - p.toList.length =
        es.length - (p.toList.length - 1) by omega]
      simp [Nat.pos_of_ne_zero empty]

/-- The count that remains is the initial count less the chunks answered. -/
theorem walk_remaining (p : ChunkPlan) (steps : List End) :
    (p.walk steps).2.remaining + ((p.walk steps).1.filterMap id).length = p.remaining := by
  simp only [← length_toList]
  induction steps generalizing p with
  | nil => simp
  | cons e es ih =>
    obtain ⟨answers, fewer⟩ := take_isSome p e
    have later := ih (p.take e).2
    rw [fewer] at later
    rw [walk_cons]
    dsimp only
    cases answer : (p.take e).1 with
    | none =>
      -- nothing was pending, so nothing is
      rw [answer, Option.isSome_none, eq_comm, decide_eq_false_iff_not] at answers
      rw [List.filterMap_cons_none (f := id) rfl]
      omega
    | some sp =>
      rw [answer, Option.isSome_some, eq_comm, decide_eq_true_iff] at answers
      rw [List.filterMap_cons_some (f := id) rfl, List.length_cons]
      omega

/-- Calls from the front only answer the pending chunks in file order, then nothing. -/
theorem walk_fronts (p : ChunkPlan) (n : Nat) :
    (p.walk (List.replicate n .front)).1 =
      (p.toList.take n).map some ++ List.replicate (n - p.toList.length) none := by
  induction n generalizing p with
  | zero => simp
  | succ n ih =>
    obtain ⟨answer, left⟩ := next_toList p
    rw [List.replicate_succ, walk_cons, ih]
    simp only [take, answer, left]
    cases p.toList <;> simp [List.replicate_succ]

/-! ## Plans of a read -/

/-- The chunks still to take are at most one more than the last pending index. -/
theorem remaining_le_pending_last (p : ChunkPlan) :
    p.remaining ≤ (p.pending.map fun bounds => bounds.2 + 1).getD 0 := by
  cases pending : p.pending with
  | none => simp [remaining, pending]
  | some bounds =>
    simp only [remaining, pending, Option.map_some, Option.getD_some]
    split <;> omega

/-- A read of a file of `size` bytes leaves at most `size` chunks to take. -/
theorem remaining_make_le {cs size : Nat} {requested : Option ByteRange} {p : ChunkPlan}
    (planned : make cs size requested = .ok p) : p.remaining ≤ size := by
  unfold make at planned
  split at planned
  · cases planned
    exact Nat.zero_le _
  · rename_i nonzero
    have pos : 0 < size := by simp only [beq_iff_eq] at nonzero; omega
    -- the last pending index is that of a byte before the end
    have last_index : ∀ e, e ≤ size - 1 → e / effectiveSize cs + 1 ≤ size := fun e bound =>
      calc e / effectiveSize cs + 1 ≤ e + 1 := Nat.add_le_add_right (Nat.div_le_self _ _) 1
        _ ≤ size := by omega
    cases requested with
    | none =>
      simp only [Except.map, Except.ok.injEq] at planned
      subst planned
      exact Nat.le_trans (remaining_le_pending_last _) (last_index (size - 1) (Nat.le_refl _))
    | some r =>
      by_cases beyond : r.first ≥ size
      · simp [beyond, Except.map] at planned
      · simp only [beyond, if_false, Except.map, Except.ok.injEq] at planned
        subst planned
        exact Nat.le_trans (remaining_le_pending_last _) (last_index _ (Nat.min_le_right _ _))

/-- While the count fits a word, the size hint is the count as both bounds. -/
theorem sizeHint_of_lt {p : ChunkPlan} (fits : p.remaining < wordBound) :
    p.sizeHint = (p.remaining, some p.remaining) := by
  simp [sizeHint, fits]

/-- What a sequence of calls does to a plan: the plan lists its chunks by increasing index;
those taken from the front, those still pending and those taken from the back (in reverse)
are the plan's chunks; a call answers a chunk exactly while one is pending; and the count that
remains, which is also the size hint, is the initial count less the chunks answered. -/
structure Walked (p : ChunkPlan) (steps : List End) : Prop where
  sorted : (p.toList.map ChunkSpec.index).Pairwise (· < ·)
  partition : takenAt .front steps (p.walk steps).1 ++ (p.walk steps).2.toList ++
    (takenAt .back steps (p.walk steps).1).reverse = p.toList
  answers : (p.walk steps).1.map Option.isSome =
    List.replicate (min steps.length p.remaining) true ++
      List.replicate (steps.length - p.remaining) false
  remaining : (p.walk steps).2.remaining + ((p.walk steps).1.filterMap id).length = p.remaining
  sizeHint : (p.walk steps).2.sizeHint = ((p.walk steps).2.remaining, some (p.walk steps).2.remaining)

/-- Any sequence of calls on a plan made for a read of a file of less than `2^64` bytes takes
the plan's chunks from its two ends, as `Walked` says. -/
theorem walk_takes_from_both_ends {cs size : Nat} {requested : Option ByteRange} {p : ChunkPlan}
    (planned : make cs size requested = .ok p) (word : size < wordBound) (steps : List End) :
    p.Walked steps := by
  have left := walk_remaining p steps
  have fits : (p.walk steps).2.remaining < wordBound := by
    have := remaining_make_le planned
    omega
  exact ⟨toList_index_sorted p, walk_partition p steps, walk_answers p steps, left,
    sizeHint_of_lt fits⟩

/-- Four calls, from alternate ends, on the plan of bytes `1..8` of a ten-byte file in chunks
of four. -/
theorem ten_byte_plan_walked :
    make 4 10 (some ⟨1, 8⟩) = .ok ⟨4, 9, ⟨1, 8⟩, some (0, 2)⟩ ∧ 10 < wordBound ∧
      Walked ⟨4, 9, ⟨1, 8⟩, some (0, 2)⟩ [.back, .front, .back, .front] :=
  have planned : make 4 10 (some ⟨1, 8⟩) = .ok ⟨4, 9, ⟨1, 8⟩, some (0, 2)⟩ := rfl
  ⟨planned, by decide, walk_takes_from_both_ends planned (by decide) _⟩

end ChunkProxy.ChunkPlan
