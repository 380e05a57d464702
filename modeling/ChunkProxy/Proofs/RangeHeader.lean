import ChunkProxy.Range.Header
import Mathlib.Data.List.TakeWhile
import Mathlib.Data.List.Forall2
/-!
# What a Range header reads as

A Range header is read against a resource of `S` bytes.  This module states, without the
reader, which headers it accepts and what it answers (`parseHeader_reads_specs`):

* the value, trimmed of blanks, starts with `bytes=`;
* every comma-separated piece, trimmed, is blank or a spec that splits at its first `-` into
  two trimmed parts of one of three forms (`RangeSpec.Reads`): `-n`, `a-` or `a-b` with
  `a ≤ b`, the numbers unsigned 64-bit words;
* at least one spec overlaps the resource;

and then the answer lists, in header order, the bytes each overlapping spec asks for
(`RangeSpec.bounds`), computed in integer arithmetic: `a .. min b (S - 1)`, `a .. S - 1` and
`S - min n S .. S - 1`.  The reader computes them on words (`RangeSpec.clamp`) and never
subtracts below zero, so its answer is these integers exactly (`map_toInts_clamp`), and every
range it answers starts no later than it ends, before `S`.

The proof follows the reader: one spec (`reads_of_readSpec`, `readSpec_of_reads`), then the
fold over the pieces (`foldlM_addSpec_ok_iff`), then the prefix (`dropPrefix?_iff`).
-/

namespace ChunkProxy

set_option autoImplicit false

open Text

/-- The bytes of a range as a pair of integers. -/
def ByteRange.toInts (r : ByteRange) : Int × Int := (r.first, r.last)

theorem ByteRange.toInts_injective : Function.Injective ByteRange.toInts := by
  intro r r' same
  simp only [ByteRange.toInts, Prod.mk.injEq, Int.natCast_inj] at same
  cases r
  cases r'
  simp only at same
  rw [same.1, same.2]

/-- The three forms of a spec of a Range header. -/
inductive RangeSpec where
  /-- `-n`: the last `n` bytes. -/
  | suffix (n : Nat)
  /-- `a-`: every byte from `a` on. -/
  | starting (a : Nat)
  /-- `a-b`: the bytes `a` to `b`. -/
  | closed (a b : Nat)
  deriving DecidableEq, Repr

namespace RangeSpec

/-- How a trimmed spec reads: it splits at its first `-` into two parts, each trimmed; an empty
first part and a number make a suffix, a number and an empty second part an open range, and
two numbers in order a closed range.  Numbers are unsigned 64-bit words, read as
`Decimal.readWord` reads them. -/
inductive Reads (spec : String) : RangeSpec → Prop
  | suffix {pre post : List Char} {n : Nat} :
      spec.toList = pre ++ '-' :: post → '-' ∉ pre →
      trimBlanks (String.ofList pre) = "" →
      Decimal.readWord (trimBlanks (String.ofList post)) = .ok n → Reads spec (.suffix n)
  | starting {pre post : List Char} {a : Nat} :
      spec.toList = pre ++ '-' :: post → '-' ∉ pre →
      Decimal.readWord (trimBlanks (String.ofList pre)) = .ok a →
      trimBlanks (String.ofList post) = "" → Reads spec (.starting a)
  | closed {pre post : List Char} {a b : Nat} :
      spec.toList = pre ++ '-' :: post → '-' ∉ pre →
      Decimal.readWord (trimBlanks (String.ofList pre)) = .ok a →
      Decimal.readWord (trimBlanks (String.ofList post)) = .ok b → a ≤ b →
      Reads spec (.closed a b)

/-- The first and last byte a spec asks of a resource of `size` bytes, in integer arithmetic,
when it overlaps the resource. -/
def bounds (size : Nat) : RangeSpec → Option (Int × Int)
  | .suffix n => if 0 < n ∧ 0 < size then some ((size : Int) - min (n : Int) size, (size : Int) - 1) else none
  | .starting a => if a < size then some (a, (size : Int) - 1) else none
  | .closed a b => if a < size then some (a, min (b : Int) ((size : Int) - 1)) else none

/-- The range a spec asks of a resource of `size` bytes, computed on words as the reader
computes it. -/
def clamp (size : Nat) : RangeSpec → Option ByteRange
  | .suffix n => if n = 0 ∨ size = 0 then none else some ⟨size - min n size, size - 1⟩
  | .starting a => if size ≤ a then none else some ⟨a, size - 1⟩
  | .closed a b => if size ≤ a then none else some ⟨a, min b (size - 1)⟩

/-- The specs of a list of pieces: each trimmed, the blank ones left out. -/
def specsOf (pieces : List String) : List String :=
  (pieces.map trimBlanks).filter fun spec => !spec.isEmpty

/-- Computed on words, a spec's range is its bytes exactly: no subtraction goes below zero. -/
theorem map_toInts_clamp (size : Nat) (f : RangeSpec) :
    (f.clamp size).map ByteRange.toInts = f.bounds size := by
  cases f with
  | suffix n =>
    simp only [clamp, bounds]
    split_ifs <;> simp only [Option.map_some, Option.map_none, ByteRange.toInts, Option.some.injEq,
      Prod.mk.injEq, reduceCtorEq] <;> omega
  | starting a =>
    simp only [clamp, bounds]
    split_ifs <;> simp only [Option.map_some, Option.map_none, ByteRange.toInts, Option.some.injEq,
      Prod.mk.injEq, reduceCtorEq, true_and] <;> omega
  | closed a b =>
    simp only [clamp, bounds]
    split_ifs <;> simp only [Option.map_some, Option.map_none, ByteRange.toInts, Option.some.injEq,
      Prod.mk.injEq, reduceCtorEq, true_and] <;> omega

/-! ## One spec -/

/-- A list with a separator splits at its first one. -/
theorem split_first {sep : Char} {cs pre post : List Char} :
    cs = pre ++ sep :: post ∧ sep ∉ pre ↔
      cs.contains sep = true ∧ pre = cs.takeWhile (· ≠ sep) ∧ post = (cs.dropWhile (· ≠ sep)).drop 1 := by
  constructor
  · rintro ⟨rfl, first⟩
    have before : ∀ c ∈ pre, decide (c ≠ sep) = true := fun c mem => by
      simp only [ne_eq, decide_eq_true_eq]
      rintro rfl
      exact first mem
    refine ⟨by simp, ?_, ?_⟩
    · rw [List.takeWhile_append_of_pos before]
      simp
    · rw [List.dropWhile_append_of_pos before]
      simp
  · rintro ⟨has, rfl, rfl⟩
    -- what the first part leaves starts with the first separator
    have nonempty : cs.dropWhile (· ≠ sep) ≠ [] := by
      intro none_left
      rw [List.dropWhile_eq_nil_iff] at none_left
      simp only [List.contains_iff_mem] at has
      simpa using none_left sep has
    have dash := List.head_dropWhile_not (· ≠ sep) nonempty
    simp only [ne_eq, decide_eq_false_iff_not, Decidable.not_not] at dash
    constructor
    · conv => lhs; rw [← List.takeWhile_append_dropWhile (p := (· ≠ sep)) (l := cs)]
      congr 1
      rw [← List.cons_head_tail nonempty, dash]
      rfl
    · intro mem
      have := List.mem_takeWhile_imp mem
      simp at this

theorem readPart_ok {what text : String} {n : Nat} :
    ByteRange.readPart what text = .ok n ↔ Decimal.readWord text = .ok n := by
  unfold ByteRange.readPart
  split <;> simp_all

theorem readWord_empty : Decimal.readWord "" = .error .empty := rfl

/-- A text that reads as a number is not empty. -/
theorem isEmpty_of_readWord {text : String} {n : Nat} (read : Decimal.readWord text = .ok n) :
    text.isEmpty = false := by
  rw [Bool.eq_false_iff, ne_eq, String.isEmpty_iff]
  rintro rfl
  rw [readWord_empty] at read
  cases read

/-- A spec the reader accepts has one of the three forms, and contributes the range of that
form, or nothing when the form overlaps nothing. -/
theorem reads_of_readSpec {size : Nat} {spec : String} {o : Option ByteRange}
    (read : ByteRange.readSpec size spec = .ok o) : ∃ f, Reads spec f ∧ o = f.clamp size := by
  unfold ByteRange.readSpec at read
  simp only [bind, Except.bind, pure, Except.pure, throw, throwThe, MonadExceptOf.throw] at read
  split at read
  · cases read
  rename_i has
  simp only [Bool.not_eq_true', Bool.not_eq_false] at has
  obtain ⟨dash, first⟩ := split_first.mpr ⟨has, rfl, rfl⟩
  generalize List.takeWhile (fun x => decide (x ≠ '-')) spec.toList = pre at read dash first
  generalize List.drop 1 (List.dropWhile (fun x => decide (x ≠ '-')) spec.toList) = post at read dash
  split at read
  · -- `-n`
    rename_i blank
    split at read
    · cases read
    rename_i n counted
    refine ⟨.suffix n, .suffix dash first (String.isEmpty_iff.mp blank) (readPart_ok.mp counted), ?_⟩
    simp only [clamp]
    split at read <;> rename_i asked <;> simp only [Except.ok.injEq] at read <;> subst read <;>
      simp only [Bool.or_eq_true, beq_iff_eq] at asked <;> simp [asked]
  · split at read
    · cases read
    rename_i a started
    split at read
    · -- `a-`
      rename_i blank
      refine ⟨.starting a, .starting dash first (readPart_ok.mp started) (String.isEmpty_iff.mp blank), ?_⟩
      simp only [clamp]
      split at read <;> rename_i beyond <;> simp only [Except.ok.injEq] at read <;> subst read <;>
        simp [beyond]
    · -- `a-b`
      split at read
      · cases read
      rename_i b ended
      split at read
      · cases read
      rename_i in_order
      refine ⟨.closed a b, .closed dash first (readPart_ok.mp started) (readPart_ok.mp ended)
        (Nat.not_lt.mp in_order), ?_⟩
      simp only [clamp]
      split at read <;> rename_i beyond <;> simp only [Except.ok.injEq] at read <;> subst read <;>
        simp [beyond]

/-- A spec of one of the three forms is accepted, with the range of its form. -/
theorem readSpec_of_reads (size : Nat) {spec : String} {f : RangeSpec} (reads : Reads spec f) :
    ByteRange.readSpec size spec = .ok (f.clamp size) := by
  cases reads with
  | suffix dash first blank counted =>
    obtain ⟨has, pre_eq, post_eq⟩ := split_first.mp ⟨dash, first⟩
    unfold ByteRange.readSpec
    simp only [bind, Except.bind, pure, Except.pure, throw, throwThe, MonadExceptOf.throw, has,
      Bool.not_true, Bool.false_eq_true, if_false, ← pre_eq, ← post_eq, String.isEmpty_iff.mpr blank,
      if_true, readPart_ok.mpr counted, clamp, Bool.or_eq_true, beq_iff_eq]
    exact (apply_ite Except.ok _ _ _).symm
  | starting dash first started blank =>
    obtain ⟨has, pre_eq, post_eq⟩ := split_first.mp ⟨dash, first⟩
    unfold ByteRange.readSpec
    simp only [bind, Except.bind, pure, Except.pure, throw, throwThe, MonadExceptOf.throw, has,
      Bool.not_true, Bool.false_eq_true, if_false, ← pre_eq, ← post_eq, String.isEmpty_iff.mpr blank,
      if_true, isEmpty_of_readWord started, readPart_ok.mpr started, clamp, Option.map_none,
      Option.getD_none]
    exact (apply_ite Except.ok _ _ _).symm
  | closed dash first started ended in_order =>
    obtain ⟨has, pre_eq, post_eq⟩ := split_first.mp ⟨dash, first⟩
    unfold ByteRange.readSpec
    simp only [bind, Except.bind, pure, Except.pure, throw, throwThe, MonadExceptOf.throw, has,
      Bool.not_true, Bool.false_eq_true, if_false, ← pre_eq, ← post_eq, isEmpty_of_readWord started,
      isEmpty_of_readWord ended, readPart_ok.mpr started, readPart_ok.mpr ended, gt_iff_lt,
      Nat.not_lt.mpr in_order, clamp, Option.map_some, Option.getD_some]
    exact (apply_ite Except.ok _ _ _).symm

/-- The range of a spec that reads starts no later than it ends, before the end of the
resource. -/
theorem clamp_inside {size : Nat} {spec : String} {f : RangeSpec} {r : ByteRange} (reads : Reads spec f)
    (clamped : f.clamp size = some r) : r.first ≤ r.last ∧ r.last < size := by
  cases reads with
  | suffix => simp only [clamp] at clamped; split_ifs at clamped; cases clamped; dsimp only; omega
  | starting => simp only [clamp] at clamped; split_ifs at clamped; cases clamped; dsimp only; omega
  | closed _ _ _ _ in_order =>
    simp only [clamp] at clamped; split_ifs at clamped; cases clamped; dsimp only; omega

/-- The ranges of specs that read lie inside the resource. -/
theorem filterMap_clamp_inside {size : Nat} {specs : List String} {forms : List RangeSpec}
    (reads : List.Forall₂ Reads specs forms) :
    ∀ r ∈ forms.filterMap (clamp size), r.first ≤ r.last ∧ r.last < size := by
  induction reads with
  | nil => simp
  | cons first rest later =>
    intro r mem
    rw [List.filterMap_cons] at mem
    split at mem
    · exact later r mem
    · rcases List.mem_cons.mp mem with rfl | further
      · exact clamp_inside first ‹_›
      · exact later r further

/-! ## The pieces of a header -/

/-- A blank piece adds nothing; any other adds the range its spec reads as, if any. -/
theorem addSpec_eq (size : Nat) (acc : List ByteRange × Bool) (piece : String) :
    ByteRange.addSpec size acc piece =
      if (trimBlanks piece).isEmpty then .ok acc
      else (ByteRange.readSpec size (trimBlanks piece)).map fun o => (acc.1 ++ o.toList, acc.2 || o.isNone) := by
  simp only [ByteRange.addSpec, bind, Except.bind, pure, Except.pure]
  split
  · rfl
  · cases ByteRange.readSpec size (trimBlanks piece) with
    | error e => rfl
    | ok o => cases o <;> simp [Except.map]

/-- The pieces of a header are read exactly when each of their specs has one of the three
forms, and then the ranges are those the forms ask for, in order. -/
theorem foldlM_addSpec_ok_iff (size : Nat) :
    ∀ (pieces : List String) (acc : List ByteRange × Bool) (ranges : List ByteRange),
      (∃ d, pieces.foldlM (ByteRange.addSpec size) acc = .ok (ranges, d)) ↔
        ∃ forms, List.Forall₂ Reads (specsOf pieces) forms ∧
          ranges = acc.1 ++ forms.filterMap (clamp size)
  | [], acc, ranges => by
    simp only [List.foldlM_nil, pure, Except.pure, Except.ok.injEq, specsOf, List.map_nil,
      List.filter_nil, List.forall₂_nil_left_iff, exists_eq_left, List.filterMap_nil, List.append_nil]
    constructor
    · rintro ⟨d, rfl⟩
      rfl
    · rintro rfl
      exact ⟨acc.2, rfl⟩
  | p :: ps, acc, ranges => by
    rw [List.foldlM_cons, addSpec_eq]
    by_cases blank : (trimBlanks p).isEmpty = true
    · -- a blank piece is skipped
      have skipped : specsOf (p :: ps) = specsOf ps := by simp [specsOf, blank]
      rw [if_pos blank, skipped]
      exact foldlM_addSpec_ok_iff size ps acc ranges
    · have kept : specsOf (p :: ps) = trimBlanks p :: specsOf ps := by simp [specsOf, blank]
      rw [if_neg blank, kept]
      cases read : ByteRange.readSpec size (trimBlanks p) with
      | error e =>
        -- the piece fails the whole header, and no form reads its spec
        constructor
        · rintro ⟨d, failed⟩
          cases failed
        · rintro ⟨forms, reads, -⟩
          cases reads with
          | cons first _ =>
            have accepted := readSpec_of_reads size first
            rw [read] at accepted
            cases accepted
      | ok o =>
        obtain ⟨f, reads, rfl⟩ := reads_of_readSpec read
        simp only [Except.map, bind, Except.bind]
        rw [foldlM_addSpec_ok_iff size ps _ ranges]
        constructor
        · rintro ⟨forms, rest, rfl⟩
          refine ⟨f :: forms, .cons reads rest, ?_⟩
          rw [List.filterMap_cons]
          cases f.clamp size <;> simp
        · rintro ⟨forms, all, rfl⟩
          cases all with
          | cons first rest =>
            rename_i f' forms'
            -- another reading of the same spec asks for the same range
            have same := readSpec_of_reads size first
            rw [read, Except.ok.injEq] at same
            refine ⟨forms', rest, ?_⟩
            rw [same, List.filterMap_cons]
            cases f'.clamp size <;> simp

end RangeSpec

/-! ## The header -/

/-- A text starts with a prefix exactly when dropping that prefix leaves a rest. -/
theorem dropPrefix?_iff (s pre rest : String) :
    (∃ sl, s.dropPrefix? pre = some sl ∧ sl.toString = rest) ↔ s = pre ++ rest := by
  constructor
  · rintro ⟨sl, dropped, rfl⟩
    exact String.eq_append_of_dropPrefix?_string_eq_some dropped
  · intro split
    cases dropped : s.dropPrefix? pre with
    | none =>
      rw [String.dropPrefix?_eq_dropPrefix?_toSlice, String.Slice.dropPrefix?_eq_none_iff,
        String.startsWith_toSlice, String.startsWith_string_eq_false_iff, split, String.toList_append]
        at dropped
      exact absurd (List.prefix_append _ _) dropped
    | some sl =>
      refine ⟨sl, rfl, ?_⟩
      have joined := String.eq_append_of_dropPrefix?_string_eq_some dropped
      rw [split] at joined
      exact ((String.append_right_inj _).mp joined).symm

namespace ByteRange

open RangeSpec

/-- A header is read exactly when, trimmed, it is `bytes=` and pieces whose specs all have
one of the three forms, and some spec overlaps the resource; the answer is the ranges of the
overlapping specs, in order. -/
theorem parseHeader_ok_iff (header : String) (size : Nat) (rs : List ByteRange) :
    parseHeader header size = .ok rs ↔
      ∃ rest forms, trimBlanks header = "bytes=" ++ rest ∧
        List.Forall₂ Reads (specsOf (rest.splitOn ",")) forms ∧
        rs = forms.filterMap (clamp size) ∧ rs ≠ [] := by
  unfold parseHeader
  simp only [bind, Except.bind, pure, Except.pure, throw, throwThe, MonadExceptOf.throw]
  constructor
  · intro parsed
    split at parsed
    · rename_i sl dropped
      split at parsed
      · cases parsed
      rename_i out folded
      split at parsed
      · split at parsed <;> cases parsed
      rename_i some_range
      simp only [Except.ok.injEq] at parsed
      subst parsed
      obtain ⟨forms, reads, ranges⟩ :=
        (RangeSpec.foldlM_addSpec_ok_iff size _ ([], false) out.1).mp ⟨out.2, folded⟩
      exact ⟨sl.toString, forms, (dropPrefix?_iff _ _ _).mp ⟨sl, dropped, rfl⟩, reads, ranges,
        by simpa using some_range⟩
    · cases parsed
  · rintro ⟨rest, forms, split, reads, rfl, some_range⟩
    obtain ⟨sl, dropped, rfl⟩ := (dropPrefix?_iff _ _ _).mpr split
    obtain ⟨d, folded⟩ := (RangeSpec.foldlM_addSpec_ok_iff size (sl.toString.splitOn ",") ([], false)
      (forms.filterMap (clamp size))).mpr ⟨forms, reads, rfl⟩
    rw [dropped]
    dsimp only
    rw [folded]
    dsimp only
    rw [if_neg (by simpa using some_range)]

/-- A Range header is read exactly when, trimmed of blanks, it starts with `bytes=`, every
non-blank comma-separated spec has one of the forms `-n`, `a-` or `a-b` with `a ≤ b`, and some
spec overlaps the resource; the ranges read are then, in header order and without the specs
that overlap nothing, `a .. min b (S - 1)`, `a .. S - 1` and `S - min n S .. S - 1`, in exact
integer arithmetic.  So every range read starts no later than it ends, before the end. -/
theorem parseHeader_reads_specs (header : String) (size : Nat) (rs : List ByteRange) :
    (parseHeader header size = .ok rs ↔
      ∃ rest forms, trimBlanks header = "bytes=" ++ rest ∧
        List.Forall₂ Reads (specsOf (rest.splitOn ",")) forms ∧
        rs.map toInts = forms.filterMap (bounds size) ∧ rs ≠ []) ∧
    (parseHeader header size = .ok rs → ∀ r ∈ rs, r.first ≤ r.last ∧ r.last < size) := by
  -- the integer bytes of the specs are the word ranges the reader computes
  have exact : ∀ forms : List RangeSpec,
      forms.filterMap (bounds size) = (forms.filterMap (clamp size)).map toInts := fun forms => by
    rw [List.map_filterMap]
    congr 1
    funext f
    exact (map_toInts_clamp size f).symm
  refine ⟨?_, fun parsed r mem => ?_⟩
  · rw [parseHeader_ok_iff]
    simp only [exact, (List.map_injective_iff.mpr toInts_injective).eq_iff]
  · obtain ⟨rest, forms, -, reads, rfl, -⟩ := (parseHeader_ok_iff header size rs).mp parsed
    exact filterMap_clamp_inside reads r mem

end ByteRange

end ChunkProxy
