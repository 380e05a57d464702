import ChunkProxy.Key.Normalize
import ChunkProxy.Key.Shard
import ChunkProxy.Fs.Path
/-!
# The leaf of a sharded path is its key

A cache key is the MD5 digest of a normalised URL, written as 32 lowercase
hexadecimal digits (`Key.HexKey`, `Key.hexKey_compute`).  Such a key is one segment
of a path (`Fs.Segment`): it has no slash, and it is neither empty nor `.`, the two
segments that cleaning a directory path drops.

A sharded path ends in its key: at every depth whose doubling fits a word, it is the
key after zero or more shard directories (`Key.shardedPath_endsWith`).  Cleaning a
path that ends in a segment keeps that segment last (`Fs.endsWith_cleanDir`), and
the leaf of such a path is the segment (`Fs.leafName_of_endsWith`).  Hence the leaf
of the cleaned sharded path of a key is the key (`Key.leafName_cleanDir_shardedPath`),
whatever the depth, including depths too large for the key, where sharding leaves
the key bare.
-/

namespace ChunkProxy

set_option autoImplicit false

namespace Md5

/-- A lowercase hexadecimal digit. -/
def IsHexDigit (c : Char) : Prop := ('0' ≤ c ∧ c ≤ '9') ∨ ('a' ≤ c ∧ c ≤ 'f')

instance (c : Char) : Decidable (IsHexDigit c) := inferInstanceAs (Decidable (_ ∨ _))

theorem isHexDigit_hexDigit : ∀ n, n < 16 → IsHexDigit (hexDigit n)
  | 0, _ | 1, _ | 2, _ | 3, _ | 4, _ | 5, _ | 6, _ | 7, _ | 8, _ | 9, _ | 10, _ | 11, _ | 12, _
  | 13, _ | 14, _ | 15, _ => by decide
  | _ + 16, h => absurd h (by omega)

/-- No hexadecimal digit is a slash. -/
theorem slash_not_isHexDigit : ¬ IsHexDigit '/' := by decide

theorem toList_hex (bs : List UInt8) :
    (hex bs).toList = bs.flatMap fun b => [hexDigit (b.toNat / 16), hexDigit (b.toNat % 16)] :=
  String.toList_ofList

theorem length_hex (bs : List UInt8) : (hex bs).length = 2 * bs.length := by
  rw [← String.length_toList, toList_hex]
  induction bs with
  | nil => rfl
  | cons b bs ih => simp [ih]; omega

theorem isHexDigit_of_mem_hex {bs : List UInt8} {c : Char} (mem : c ∈ (hex bs).toList) : IsHexDigit c := by
  rw [toList_hex, List.mem_flatMap] at mem
  obtain ⟨b, -, digit⟩ := mem
  simp only [List.mem_cons, List.not_mem_nil, or_false] at digit
  rcases digit with rfl | rfl
  · exact isHexDigit_hexDigit _ (Nat.div_lt_of_lt_mul (by simpa using b.toNat_lt))
  · exact isHexDigit_hexDigit _ (Nat.mod_lt _ (by decide))

theorem length_digest (msg : List UInt8) : (digest msg).length = 16 := by
  simp [digest, wordBytes]

end Md5

namespace Fs

/-- A text that stands as one segment of a path: no slash, and neither empty nor `.`. -/
structure Segment (k : String) : Prop where
  noSlash : '/' ∉ k.toList
  nonempty : k ≠ ""
  notDot : k ≠ "."

/-- A path whose segments end with `k`: some segments, then `k`, joined by slashes. -/
def EndsWith (p k : String) : Prop := ∃ pre : List String, p = "/".intercalate (pre ++ [k])

theorem endsWith_self (k : String) : EndsWith k k := ⟨[], by simp⟩

/-- The characters of a path ending in `k`: those of `k`, after nothing or after a slash. -/
theorem toList_of_endsWith {p k : String} (ends : EndsWith p k) :
    p.toList = k.toList ∨ ∃ c : List Char, p.toList = c ++ '/' :: k.toList := by
  obtain ⟨pre, rfl⟩ := ends
  cases pre with
  | nil => exact .inl (by simp)
  | cons s rest =>
    right
    refine ⟨("/".intercalate (s :: rest)).toList, ?_⟩
    rw [String.intercalate_append_of_ne_nil (by simp) (by simp)]
    simp

/-- Splitting a path that ends in a segment at its slashes gives the segment last. -/
theorem splitOn_of_endsWith {p k : String} (seg : Segment k) (ends : EndsWith p k) :
    ∃ pre, p.toList.splitOn '/' = pre ++ [k.toList] := by
  rcases toList_of_endsWith ends with same | ⟨c, shape⟩
  · exact ⟨[], by rw [same, List.splitOn_eq_singleton seg.noSlash]; rfl⟩
  · refine ⟨c.splitOn '/', ?_⟩
    rw [shape, List.splitOn_append_cons_self, List.splitOn_eq_singleton seg.noSlash]

/-- Cleaning a path that ends in a segment drops empty and `.` segments before it, and keeps
the segment last. -/
theorem endsWith_cleanDir {p k : String} (seg : Segment k) (ends : EndsWith p k) :
    EndsWith (cleanDir p) k := by
  obtain ⟨pre, split⟩ := splitOn_of_endsWith seg ends
  refine ⟨(pre.map String.ofList).filter fun s => !s.isEmpty && s != ".", ?_⟩
  unfold cleanDir
  rw [split, List.map_append, List.filter_append, List.map_singleton, String.ofList_toList,
    List.filter_cons_of_pos (by simp [seg.nonempty, seg.notDot]), List.filter_nil]

/-- Read backwards, a path ending in a segment gives the segment's characters, then a slash
or nothing. -/
theorem reverse_of_endsWith {p k : String} (ends : EndsWith p k) :
    ∃ tail, p.toList.reverse = k.toList.reverse ++ tail ∧ tail.takeWhile (· ≠ '/') = [] := by
  rcases toList_of_endsWith ends with same | ⟨c, shape⟩
  · exact ⟨[], by rw [same, List.append_nil], rfl⟩
  · refine ⟨'/' :: c.reverse, ?_, by simp⟩
    simp [shape]

/-- The leaf of a path that ends in a segment is the segment. -/
theorem leafName_of_endsWith {p k : String} (seg : Segment k) (ends : EndsWith p k) : leafName p = k := by
  have noSlash : ∀ c ∈ k.toList.reverse, decide (c ≠ '/') = true := by
    intro c mem
    simp only [List.mem_reverse] at mem
    simpa using fun same : c = '/' => seg.noSlash (same ▸ mem)
  -- the last character of the segment is no slash, so no trailing slash is trimmed
  obtain ⟨x, r, last⟩ := List.exists_cons_of_ne_nil (by simpa using seg.nonempty : k.toList.reverse ≠ [])
  have first : (x == '/') = false := by
    have := noSlash x (by rw [last]; exact List.mem_cons_self)
    simpa using this
  obtain ⟨tail, backwards, stops⟩ := reverse_of_endsWith ends
  have untrimmed : (k.toList.reverse ++ tail).dropWhile (· == '/') = k.toList.reverse ++ tail := by
    rw [last, List.cons_append, List.dropWhile_cons_of_neg (by simp [first])]
  unfold leafName
  dsimp only
  rw [backwards, untrimmed, List.reverse_reverse, List.takeWhile_append_of_pos noSlash, stops,
    List.append_nil, List.reverse_reverse, String.ofList_toList]

end Fs

namespace Key

/-- A cache key as digests are written: 32 lowercase hexadecimal digits. -/
def HexKey (k : String) : Prop := k.length = 32 ∧ ∀ c ∈ k.toList, Md5.IsHexDigit c

/-- Every key is written as 32 lowercase hexadecimal digits. -/
theorem hexKey_compute (raw : String) (dropQuery dropOrigin : Bool) :
    HexKey (compute raw dropQuery dropOrigin) :=
  ⟨by simp [compute, digest, Md5.hexDigest, Md5.length_hex, Md5.length_digest],
    fun _ mem => Md5.isHexDigit_of_mem_hex mem⟩

/-- A key is one segment of a path. -/
theorem HexKey.segment {k : String} (hex : HexKey k) : Fs.Segment k where
  noSlash := fun mem => Md5.slash_not_isHexDigit (hex.2 '/' mem)
  nonempty := fun empty => by simpa [empty] using hex.1
  notDot := fun dot => absurd hex.1 (by rw [dot]; decide)

/-- At a depth whose doubling fits a word, the sharded path of a key is some shard
directories, possibly none, then the key. -/
theorem shardedPath_endsWith (k : String) {depth : Nat} (fits : 2 * depth < wordBound) :
    ∃ p, shardedPath k depth = .ok p ∧ Fs.EndsWith p k := by
  unfold shardedPath
  rw [if_neg (Nat.not_le.mpr fits)]
  dsimp only
  split
  · exact ⟨k, rfl, Fs.endsWith_self k⟩
  · split
    · exact ⟨_, rfl, _, rfl⟩
    · exact ⟨k, rfl, Fs.endsWith_self k⟩

/-- The leaf of the cleaned sharded path of a key is the key, at every depth whose doubling
fits a word. -/
theorem leafName_cleanDir_shardedPath {k : String} (hex : HexKey k) {depth : Nat}
    (fits : 2 * depth < wordBound) :
    ∃ p, shardedPath k depth = .ok p ∧ Fs.leafName (Fs.cleanDir p) = k := by
  obtain ⟨p, sharded, ends⟩ := shardedPath_endsWith k fits
  exact ⟨p, sharded, Fs.leafName_of_endsWith hex.segment (Fs.endsWith_cleanDir hex.segment ends)⟩

end Key

end ChunkProxy
