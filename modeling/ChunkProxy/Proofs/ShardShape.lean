import ChunkProxy.Proofs.DirectoryPaths
/-!
# The shape of a sharded path

At a depth `d` whose doubling fits a word, `Key.shardedPath k d` is one of two paths: the key
alone, or the shard directories `k[2i..2i+2]` for `i < d` followed by the key, joined by
slashes.  It takes the second shape exactly when the key is `Sharded`: the depth is positive,
the key has two bytes a level, and every even byte offset up to `2d` falls between characters
(`not_bare_iff`, against the code's own test `Key.Bare`).

Every shard directory name is two bytes of the key's text (`shardName_utf8ByteSize`), so it
holds no character the key lacks and is never the one-byte segment `.`.  Hence, for a key
that is one segment of a path, the sharded path is a clean directory path
(`clean_shardedPath`): cleaning leaves it as it is, and its leaf is the key
(`shardedPath_shape`).  This is how a file is found again from the virtual path it is
listed under.
-/

namespace ChunkProxy.Key

set_option autoImplicit false

/-- A key placed below its shard directories at a depth: the depth is positive, the key has two
bytes a level, and every even byte offset up to twice the depth falls between characters. -/
def Sharded (key : String) (depth : Nat) : Prop :=
  0 < depth ∧ 2 * depth ≤ key.utf8ByteSize ∧ ∀ i ≤ depth, String.Pos.Raw.IsValid key ⟨2 * i⟩

/-- The cuts of every level fall between characters exactly when, at a positive depth, every
even offset up to twice the depth does. -/
theorem levels_valid_iff {key : String} {depth : Nat} :
    (∀ level < depth,
        String.Pos.Raw.IsValid key ⟨2 * level⟩ ∧ String.Pos.Raw.IsValid key ⟨2 * level + 2⟩) ↔
      (0 < depth → ∀ i ≤ depth, String.Pos.Raw.IsValid key ⟨2 * i⟩) := by
  constructor
  · intro levels pos i le
    rcases Nat.lt_or_eq_of_le le with below | rfl
    · exact (levels i below).1
    · -- the last even offset closes the last level
      obtain ⟨level, rfl⟩ := Nat.exists_eq_add_of_lt pos
      simpa only [Nat.zero_add, Nat.mul_succ] using (levels level (by omega)).2
  · intro evens level below
    have offset : 2 * level + 2 = 2 * (level + 1) := by omega
    rw [offset]
    exact ⟨evens (by omega) level (by omega), evens (by omega) (level + 1) (by omega)⟩

/-- A key is left bare exactly when it is not `Sharded`. -/
theorem not_bare_iff {key : String} {depth : Nat} : ¬ Bare key depth ↔ Sharded key depth := by
  simp only [Bare, Sharded, not_or, not_exists, not_and, Classical.not_not, ← Nat.pos_iff_ne_zero,
    Nat.not_lt]
  constructor
  · rintro ⟨pos, long, levels⟩
    exact ⟨pos, long, levels_valid_iff.mp levels pos⟩
  · rintro ⟨pos, long, evens⟩
    exact ⟨pos, long, levels_valid_iff.mpr fun _ => evens⟩

/-- Each shard directory name of a key placed below them is two bytes of the key's text. -/
theorem shardName_utf8ByteSize {key : String} {depth : Nat} (placed : ¬ Bare key depth) {name : String}
    (mem : name ∈ shardNames key depth) : name.utf8ByteSize = 2 := by
  simp only [shardNames, List.mem_map, List.mem_range] at mem
  obtain ⟨level, inside, rfl⟩ := mem
  simp only [Bare, not_or, not_exists, not_and, Classical.not_not] at placed
  obtain ⟨lo, hi⟩ := placed.2.2 level inside
  rw [← isBoundary_encode] at lo hi
  obtain ⟨before, within, after, whole, front, widths⟩ := window_split lo hi
  have text := extract_window whole
  rw [front, widths] at text
  rw [text, String.utf8ByteSize_ofList, widths]

/-- The shard directory names of a key that is one segment of a path are segments too: they
hold only the key's characters, at least one, and two bytes are never the segment `.`. -/
theorem shardName_segment {key : String} {depth : Nat} (seg : Fs.Segment key) (placed : ¬ Bare key depth)
    {name : String} (mem : name ∈ shardNames key depth) : Fs.Segment name := by
  obtain ⟨nonempty, within⟩ := shardName_chars placed mem
  have bytes := shardName_utf8ByteSize placed mem
  refine ⟨fun slash => seg.noSlash (within '/' slash), fun empty => nonempty (by simp [empty]), ?_⟩
  rintro rfl
  exact absurd bytes (by decide)

/-- The sharded path of a key that is one segment of a path is a clean directory path. -/
theorem clean_shardedPath {key : String} {depth : Nat} (seg : Fs.Segment key)
    (fits : 2 * depth < wordBound) {p : String} (sharded : shardedPath key depth = .ok p) : Fs.Clean p := by
  by_cases bare : Bare key depth
  · rw [shardedPath_of_bare fits bare, Except.ok.injEq] at sharded
    subst sharded
    exact ⟨[key], by simpa using seg, by simp⟩
  · rw [shardedPath_of_not_bare fits bare, Except.ok.injEq] at sharded
    subst sharded
    refine ⟨_, fun s mem => ?_, rfl⟩
    rcases List.mem_append.mp mem with name | last
    · exact shardName_segment seg bare name
    · exact List.mem_singleton.mp last ▸ seg

/-- At a depth whose doubling fits a word, a `Sharded` key is placed below its shard
directories `k[2i..2i+2]`, a path other than the key, and any other key is left bare.  For a
key that is one segment of a path, the sharded path has the key as its leaf and is left as it
is by cleaning. -/
theorem shardedPath_shape (k : String) {d : Nat} (fits : 2 * d < wordBound) :
    (Sharded k d → shardedPath k d = .ok ("/".intercalate (shardNames k d ++ [k])) ∧
        "/".intercalate (shardNames k d ++ [k]) ≠ k) ∧
    (¬ Sharded k d → shardedPath k d = .ok k) ∧
    (Fs.Segment k → ∀ p, shardedPath k d = .ok p → Fs.leafName p = k ∧ Fs.cleanDir p = p) := by
  refine ⟨fun sharded => ?_, fun bare => ?_, fun seg p result => ?_⟩
  · have placed := not_bare_iff.mpr sharded
    exact ⟨shardedPath_of_not_bare fits placed, intercalate_shardNames_ne k (Nat.ne_of_gt sharded.1)⟩
  · exact shardedPath_of_bare fits (Classical.not_not.mp (mt not_bare_iff.mp bare))
  · obtain ⟨q, same, ends⟩ := shardedPath_endsWith k fits
    rw [same, Except.ok.injEq] at result
    subst result
    exact ⟨Fs.leafName_of_endsWith seg ends, (clean_shardedPath seg fits same).cleanDir_eq⟩

/-- The key `ab12cd34` at depth two: placed below `ab` and `12`, its leaf is itself and the
path is clean. -/
theorem eight_digit_key_sharded :
    2 * 2 < wordBound ∧
    (Sharded "ab12cd34" 2 →
      shardedPath "ab12cd34" 2 = .ok ("/".intercalate (shardNames "ab12cd34" 2 ++ ["ab12cd34"])) ∧
        "/".intercalate (shardNames "ab12cd34" 2 ++ ["ab12cd34"]) ≠ "ab12cd34") ∧
    (¬ Sharded "ab12cd34" 2 → shardedPath "ab12cd34" 2 = .ok "ab12cd34") ∧
    (Fs.Segment "ab12cd34" → ∀ p, shardedPath "ab12cd34" 2 = .ok p →
      Fs.leafName p = "ab12cd34" ∧ Fs.cleanDir p = p) :=
  ⟨by decide, shardedPath_shape "ab12cd34" (by decide)⟩

end ChunkProxy.Key
