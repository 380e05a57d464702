import ChunkProxy.Proofs.CacheContent
import ChunkProxy.Proofs.ShardDirectories
/-!
# Where chunks are kept: below the cache directory, and apart

The chunks of one version of a file are filed under `versionPath remote size`: the remote
without trailing slashes, a slash, then the size.  In memory a chunk is keyed
`path/start-end` (`chunkKey`); on disk it is the file `start-end` below the plain segments of
the path (`chunkFile`), the segments that are neither empty, `.` nor `..` (`PlainSegment`).

Every segment of a chunk file is plain (`plainSegment_of_mem_chunkFile`), so the file leads
below the cache directory whatever the remote says: `reach` follows a path the way a file
system does, and from wherever the directory leads the file's segments only descend
(`reach_chunkFile`).  For a remote whose segments are all plain (`PlainRemote`), neither
trimming nor filtering changes anything: the key is `remote/size/start-end`
(`PlainRemote.toList_chunkKey_versionPath`) and the file is the remote's segments, the size and
the range's name (`PlainRemote.chunkFile_versionPath`).  Neither the size nor a range's name
holds a slash, so splitting at slashes takes the last two segments off again, and the key and
the file each name the remote, the size and the range (`PlainRemote.chunkKey_inj`,
`PlainRemote.chunkFile_inj`).  The sharded path of a cache key is such a remote
(`plainRemote_shardedPath`).  `chunk_names_stay_below_and_apart` gathers the three.

Names are read back by splitting at slashes, and splitting a text at slashes splits its
characters at slashes (`splitOn_char`).
-/

namespace ChunkProxy

set_option autoImplicit false

open String in
/-- Splitting at a character, from a position inside a text: the pieces already cut, then the
piece begun and the pieces of the rest. -/
theorem splitOnAux_char (sep : Char) (l m r : List Char) (acc : List String) :
    splitOnAux (ofList (l ++ m ++ r)) (String.singleton sep) ⟨utf8Len l⟩ ⟨utf8Len l + utf8Len m⟩ 0 acc =
      acc.reverse ++ (List.splitOnPPrepend (· == sep) r m.reverse).map ofList := by
  -- induction on the characters not yet read; the piece begun and the pieces cut vary
  induction r generalizing l m acc with
  | nil =>
    unfold splitOnAux
    simp only [List.append_nil, atEnd_iff, rawEndPos_ofList, utf8Len_append, Pos.Raw.mk_le_mk,
      Nat.le_refl, if_true]
    simpa using extract_of_valid l m []
  | cons c r ih =>
    unfold splitOnAux
    simp only [List.append_assoc, atEnd_iff, rawEndPos_ofList, utf8Len_append, Pos.Raw.mk_le_mk,
      Nat.add_le_add_iff_left, (by omega : utf8Len m + utf8Len (c :: r) ≤ utf8Len m ↔ utf8Len (c :: r) = 0),
      utf8Len_eq_zero, reduceCtorEq, if_false]
    have got : Pos.Raw.get (ofList (l ++ (m ++ c :: r))) ⟨utf8Len l + utf8Len m⟩ = c := by
      simpa [List.append_assoc] using get_of_valid (l ++ m) (c :: r)
    have stepped : Pos.Raw.next (ofList (l ++ (m ++ c :: r))) ⟨utf8Len l + utf8Len m⟩ =
        ⟨utf8Len l + utf8Len m + c.utf8Size⟩ := by
      simpa [List.append_assoc] using next_of_valid (l ++ m) c r
    have slash : (0 : Pos.Raw).get (String.singleton sep) = sep := by
      simpa using get_of_valid [] [sep]
    rw [got, slash]
    by_cases at_slash : c = sep
    · -- the separator ends the piece begun; the rest is split from the next character
      subst at_slash
      have onward : Pos.Raw.next (String.singleton c) (0 : Pos.Raw) = ⟨c.utf8Size⟩ := by
        simpa using next_of_valid [] c []
      have ends : (String.singleton c).rawEndPos ≤ ⟨c.utf8Size⟩ := by
        rw [singleton_eq_ofList, rawEndPos_ofList]
        simp
      have cut : Pos.Raw.extract (ofList (l ++ (m ++ c :: r))) ⟨utf8Len l⟩ ⟨utf8Len l + utf8Len m⟩ =
          ofList m := by
        simpa [List.append_assoc] using extract_of_valid l m (c :: r)
      have next := ih (l ++ m ++ [c]) [] (ofList m :: acc)
      simp only [List.append_assoc, List.cons_append, List.nil_append, utf8Len_append, utf8Len_cons,
        utf8Len_nil, Nat.add_zero, Nat.zero_add] at next
      simp only [beq_self_eq_true, if_true, stepped, onward, if_pos ends, Pos.Raw.unoffsetBy,
        Nat.add_sub_cancel, cut]
      rw [← Nat.add_assoc] at next
      rw [next, List.splitOnPPrepend_cons_pos (by simp)]
      simp
    · -- any other character extends the piece begun
      have next := ih l (m ++ [c]) acc
      simp only [List.append_assoc, List.cons_append, List.nil_append, utf8Len_append, utf8Len_cons,
        utf8Len_nil, Nat.zero_add] at next
      have differs : (c == sep) = false := by simpa using at_slash
      have origin : (0 : Pos.Raw).byteIdx = 0 := rfl
      simp only [differs, Bool.false_eq_true, if_false, Pos.Raw.unoffsetBy, origin, Nat.sub_zero, stepped]
      rw [← Nat.add_assoc] at next
      rw [next, @List.splitOnPPrepend_cons_neg _ (· == sep) c r m.reverse differs]
      simp

/-- Splitting a text at a character splits its characters there. -/
theorem splitOn_char (s : String) (sep : Char) :
    s.splitOn (String.singleton sep) = (s.toList.splitOn sep).map String.ofList := by
  rw [String.splitOn, if_neg (by simp)]
  simpa [List.splitOn_eq_splitOnP] using splitOnAux_char sep [] [] s.toList []

/-- Splitting a text at slashes splits its characters at slashes. -/
theorem splitOn_slash (s : String) : s.splitOn "/" = (s.toList.splitOn '/').map String.ofList :=
  splitOn_char s '/'

/-- A text is what its pieces between slashes say. -/
theorem eq_of_toList_splitOn {s s' : String} (pieces : s.toList.splitOn '/' = s'.toList.splitOn '/') :
    s = s' := by
  apply String.toList_injective
  calc s.toList = ['/'].intercalate (s.toList.splitOn '/') := (List.intercalate_splitOn _).symm
    _ = ['/'].intercalate (s'.toList.splitOn '/') := by rw [pieces]
    _ = s'.toList := List.intercalate_splitOn _

theorem eq_of_splitOn_slash {s s' : String} (same : s.splitOn "/" = s'.splitOn "/") : s = s' := by
  rw [splitOn_slash, splitOn_slash] at same
  exact eq_of_toList_splitOn (by simpa using congrArg (List.map String.toList) same)

/-- Pieces without slashes joined by slashes split back into the pieces. -/
theorem splitOn_intercalate_slash {segs : List String} (noSlash : ∀ s ∈ segs, '/' ∉ s.toList)
    (nonempty : segs ≠ []) : ("/".intercalate segs).splitOn "/" = segs := by
  rw [splitOn_slash, String.toList_intercalate, show "/".toList = ['/'] from rfl, List.splitOn_intercalate '/' (by simpa using noSlash) (by simpa using nonempty)]
  simp

namespace Cache

/-! ## Segments -/

/-- A segment that names a directory entry below the directory it is read in: it is not
empty, which names the directory itself, nor `.` or `..`. -/
structure PlainSegment (s : String) : Prop where
  nonempty : s ≠ ""
  notDot : s ≠ "."
  notDotDot : s ≠ ".."

/-- A remote whose segments between slashes are all plain. -/
def PlainRemote (remote : String) : Prop := ∀ s ∈ remote.splitOn "/", PlainSegment s

/-- The segments a chunk file keeps are the plain ones. -/
theorem keeps_iff_plainSegment (s : String) :
    (!s.isEmpty && s != "." && s != "..") = true ↔ PlainSegment s := by
  simp only [Bool.and_eq_true, Bool.not_eq_true', String.isEmpty_eq_false_iff, bne_iff_ne, ne_eq]
  exact ⟨fun ⟨⟨e, d⟩, dd⟩ => ⟨e, d, dd⟩, fun ⟨e, d, dd⟩ => ⟨⟨e, d⟩, dd⟩⟩

theorem plainSegment_of_mem_plainSegments {remote s : String} (mem : s ∈ plainSegments remote) :
    PlainSegment s :=
  (keeps_iff_plainSegment s).mp (List.mem_filter.mp mem).2


/-- A text holding no dot is neither `.` nor `..`, and a non-empty one is plain. -/
theorem plainSegment_of_no_dot {s : String} (nonempty : s.toList ≠ []) (noDot : '.' ∉ s.toList) :
    PlainSegment s where
  nonempty := fun empty => nonempty (by simp [empty])
  notDot := fun dot => noDot (by simp [dot])
  notDotDot := fun dots => noDot (by simp [dots])

theorem plainSegment_showNat (n : Nat) : PlainSegment (showNat n) :=
  plainSegment_of_no_dot (by simp [showNat])
    (by simpa [showNat] using not_mem_toDigits (c := '.') (by decide) n)

theorem plainSegment_rangeName (r : ByteRange) : PlainSegment (rangeName r) :=
  plainSegment_of_no_dot (by simp [rangeName_toList]) (not_mem_rangeName (by decide) (by decide))

/-- Every segment of a chunk file is plain, and the last is the range's name. -/
theorem plainSegment_of_mem_chunkFile {remote s : String} {r : ByteRange} (mem : s ∈ chunkFile remote r) :
    PlainSegment s := by
  simp only [chunkFile, List.mem_append, List.mem_singleton] at mem
  rcases mem with kept | rfl
  · exact plainSegment_of_mem_plainSegments kept
  · exact plainSegment_rangeName r

/-! ## Where a path leads -/

/-- The directory a path of segments leads to from `here`: `..` climbs one level, never above
the root, `.` and empty segments stay, and any other segment descends into that entry. -/
def reach (here : List String) : List String → List String
  | [] => here
  | s :: rest =>
    reach (if s = ".." then here.dropLast else if s = "." ∨ s = "" then here else here ++ [s]) rest

theorem reach_append (here a b : List String) : reach here (a ++ b) = reach (reach here a) b := by
  induction a generalizing here with
  | nil => rfl
  | cons s rest ih => exact ih _

/-- Plain segments only descend. -/
theorem reach_of_plain (here : List String) {segs : List String} (plain : ∀ s ∈ segs, PlainSegment s) :
    reach here segs = here ++ segs := by
  induction segs generalizing here with
  | nil => simp [reach]
  | cons s rest ih =>
    have head := plain s List.mem_cons_self
    have descends : (if s = ".." then here.dropLast else if s = "." ∨ s = "" then here else here ++ [s]) =
        here ++ [s] := by
      rw [if_neg head.notDotDot, if_neg (by rintro (dot | empty); exacts [head.notDot dot, head.nonempty empty])]
    rw [reach, descends, ih (here ++ [s]) (fun t mem => plain t (List.mem_cons_of_mem s mem))]
    simp

/-! ## Plain remotes -/

theorem dropWhile_slash_of_head {cs : List Char} (first : ∀ c ∈ cs.head?, c ≠ '/') :
    cs.dropWhile (· == '/') = cs := by
  cases cs with
  | nil => rfl
  | cons c rest => exact List.dropWhile_cons_of_neg (by simpa using first c rfl)

/-- A text that neither starts nor ends with a slash has none to trim. -/
theorem trimSlashes_of_ends {s : String} (first : ∀ c ∈ s.toList.head?, c ≠ '/')
    (last : ∀ c ∈ s.toList.getLast?, c ≠ '/') : trimSlashes s = s := by
  have backFirst : ∀ c ∈ s.toList.reverse.head?, c ≠ '/' := by simpa using last
  rw [trimSlashes, dropWhile_slash_of_head first, dropWhile_slash_of_head backFirst, List.reverse_reverse,
    String.ofList_toList]

section PlainRemote

variable {remote : String}

theorem PlainRemote.nil_not_mem (plain : PlainRemote remote) : [] ∉ remote.toList.splitOn '/' :=
  fun mem => (plain "" (by rw [splitOn_slash]; exact List.mem_map.mpr ⟨[], mem, rfl⟩)).nonempty rfl

/-- A plain remote neither starts with a slash nor is empty. -/
theorem PlainRemote.head (plain : PlainRemote remote) : ∃ c cs, remote.toList = c :: cs ∧ c ≠ '/' := by
  have noEmpty := plain.nil_not_mem
  match shape : remote.toList with
  | [] => exact absurd (by rw [shape]; simp) noEmpty
  | c :: cs =>
    refine ⟨c, cs, rfl, fun slash => noEmpty ?_⟩
    rw [shape, slash, ← List.nil_append ('/' :: cs), List.splitOn_append_cons_self]
    simp

/-- A plain remote does not end with a slash. -/
theorem PlainRemote.last (plain : PlainRemote remote) : ∃ init x, remote.toList = init ++ [x] ∧ x ≠ '/' := by
  have noEmpty := plain.nil_not_mem
  obtain ⟨c, cs, shape, -⟩ := plain.head
  obtain ⟨init, x, ends⟩ := List.eq_nil_or_concat (c :: cs) |>.resolve_left (List.cons_ne_nil c cs)
  rw [List.concat_eq_append] at ends
  refine ⟨init, x, shape.trans ends, fun slash => noEmpty ?_⟩
  rw [shape, ends, slash, List.splitOn_append_cons_self]
  simp

/-- Trailing slashes of a plain remote: there are none to drop. -/
theorem PlainRemote.dropTrailing (plain : PlainRemote remote) :
    (remote.toList.reverse.dropWhile (· == '/')).reverse = remote.toList := by
  obtain ⟨init, x, shape, last⟩ := plain.last
  rw [shape, List.reverse_concat, List.dropWhile_cons_of_neg (by simpa using last), ← List.reverse_concat,
    List.reverse_reverse]

/-- The characters of the path a plain remote's chunks are filed under: the remote, a slash, and
the size's digits. -/
theorem PlainRemote.toList_versionPath (plain : PlainRemote remote) (size : Nat) :
    (versionPath remote size).toList = remote.toList ++ '/' :: Nat.toDigits 10 size := by
  simp [versionPath, plain.dropTrailing, showNat]

/-- A chunk of a plain remote is keyed by the remote, the size and the range's name, between
slashes. -/
theorem PlainRemote.toList_chunkKey_versionPath (plain : PlainRemote remote) (size : Nat) (r : ByteRange) :
    (chunkKey (versionPath remote size) r).toList =
      remote.toList ++ '/' :: (Nat.toDigits 10 size ++ '/' :: (rangeName r).toList) := by
  obtain ⟨c, cs, first, notSlash⟩ := plain.head
  obtain ⟨digits, d, number⟩ := List.eq_nil_or_concat (Nat.toDigits 10 size) |>.resolve_left Nat.toDigits_ne_nil
  rw [List.concat_eq_append] at number
  have lastDigit : d ≠ '/' := fun slash =>
    not_mem_toDigits (c := '/') (by decide) size (by rw [number, ← slash]; exact List.mem_concat_self)
  -- the versioned path starts with the remote's first character and ends with a digit, so
  -- trimming slashes at either end changes nothing
  have trimmed : trimSlashes (versionPath remote size) = versionPath remote size := by
    apply trimSlashes_of_ends
    · rw [plain.toList_versionPath, first]
      simpa using notSlash
    · rw [plain.toList_versionPath, number, ← List.cons_append, ← List.append_assoc, List.getLast?_concat]
      simpa using lastDigit
  rw [chunkKey, trimmed, String.toList_append, String.toList_append, plain.toList_versionPath]
  simp

/-- Splitting a plain remote's chunk key at slashes gives the remote's segments, the size and the
range's name. -/
theorem PlainRemote.splitOn_chunkKey (plain : PlainRemote remote) (size : Nat) (r : ByteRange) :
    (chunkKey (versionPath remote size) r).toList.splitOn '/' =
      remote.toList.splitOn '/' ++ [Nat.toDigits 10 size, (rangeName r).toList] := by
  rw [plain.toList_chunkKey_versionPath, List.splitOn_append_cons_self, List.splitOn_append_cons_self,
    List.splitOn_eq_singleton (not_mem_toDigits (by decide) size),
    List.splitOn_eq_singleton (not_mem_rangeName (r := r) (by decide) (by decide))]
  rfl

/-- A plain remote's chunk file is the remote's segments, the size and the range's name. -/
theorem PlainRemote.chunkFile_versionPath (plain : PlainRemote remote) (size : Nat) (r : ByteRange) :
    chunkFile (versionPath remote size) r = remote.splitOn "/" ++ [showNat size, rangeName r] := by
  have split : (versionPath remote size).splitOn "/" = remote.splitOn "/" ++ [showNat size] := by
    rw [splitOn_slash, splitOn_slash, plain.toList_versionPath, List.splitOn_append_cons_self,
      List.splitOn_eq_singleton (not_mem_toDigits (by decide) size)]
    simp [showNat]
  have kept : ∀ s ∈ remote.splitOn "/" ++ [showNat size],
      (!s.isEmpty && s != "." && s != "..") = true := by
    intro s mem
    rw [keeps_iff_plainSegment]
    rcases List.mem_append.mp mem with segment | last
    · exact plain s segment
    · rw [List.mem_singleton.mp last]
      exact plainSegment_showNat size
  simp only [chunkFile, plainSegments, split, List.filter_eq_self.mpr kept, List.append_assoc,
    List.singleton_append]

/-- A plain remote's chunk key names the remote, the size and the range. -/
theorem PlainRemote.chunkKey_inj {remote' : String} (plain : PlainRemote remote) (plain' : PlainRemote remote')
    {size size' : Nat} {r r' : ByteRange}
    (same : chunkKey (versionPath remote size) r = chunkKey (versionPath remote' size') r') :
    remote = remote' ∧ size = size' ∧ r = r' := by
  have split := congrArg (fun key => key.toList.splitOn '/') same
  simp only [plain.splitOn_chunkKey, plain'.splitOn_chunkKey] at split
  -- the last two pieces are the size's digits and the range's name
  obtain ⟨segments, ends⟩ := List.append_inj' split (by simp only [List.length_cons, List.length_nil])
  simp only [List.cons.injEq, and_true] at ends
  exact ⟨eq_of_toList_splitOn segments, toDigits_ten_injective ends.1,
    rangeName_injective (String.toList_injective ends.2)⟩

/-- A plain remote's chunk file names the remote, the size and the range. -/
theorem PlainRemote.chunkFile_inj {remote' : String} (plain : PlainRemote remote) (plain' : PlainRemote remote')
    {size size' : Nat} {r r' : ByteRange}
    (same : chunkFile (versionPath remote size) r = chunkFile (versionPath remote' size') r') :
    remote = remote' ∧ size = size' ∧ r = r' := by
  rw [plain.chunkFile_versionPath, plain'.chunkFile_versionPath] at same
  obtain ⟨segments, ends⟩ := List.append_inj' same (by simp only [List.length_cons, List.length_nil])
  simp only [List.cons.injEq, and_true] at ends
  refine ⟨eq_of_splitOn_slash segments, toDigits_ten_injective ?_, rangeName_injective ends.2⟩
  simpa [showNat] using congrArg String.toList ends.1

end PlainRemote

/-! ## Sharded paths of keys -/

theorem dot_not_isHexDigit : ¬ Md5.IsHexDigit '.' := by decide

/-- A cache key is a plain segment. -/
theorem plainSegment_of_hexKey {key : String} (hex : Key.HexKey key) : PlainSegment key :=
  plainSegment_of_no_dot (by simpa using hex.segment.nonempty)
    fun dot => dot_not_isHexDigit (hex.2 '.' dot)

/-- The sharded path of a cache key is a plain remote: its shard directories are pairs of the
key's digits, and the key is last. -/
theorem plainRemote_shardedPath {key : String} (hex : Key.HexKey key) {depth : Nat} {p : String}
    (sharded : Key.shardedPath key depth = .ok p) : PlainRemote p := by
  rcases Key.shardedPath_cases key depth with ⟨-, faulted⟩ | ⟨-, -, bare⟩ | ⟨-, placed, below⟩
  · rw [faulted] at sharded
    cases sharded
  · rw [bare] at sharded
    cases sharded
    intro s mem
    rw [splitOn_slash, List.splitOn_eq_singleton hex.segment.noSlash] at mem
    simp only [List.map_cons, List.map_nil, String.ofList_toList, List.mem_singleton] at mem
    exact mem ▸ plainSegment_of_hexKey hex
  · rw [below] at sharded
    cases sharded
    have names : ∀ name ∈ Key.shardNames key depth, '/' ∉ name.toList ∧ PlainSegment name := by
      intro name mem
      obtain ⟨nonempty, within⟩ := Key.shardName_chars placed mem
      exact ⟨fun slash => Md5.slash_not_isHexDigit (hex.2 '/' (within '/' slash)),
        plainSegment_of_no_dot nonempty fun dot => dot_not_isHexDigit (hex.2 '.' (within '.' dot))⟩
    have noSlash : ∀ s ∈ Key.shardNames key depth ++ [key], '/' ∉ s.toList := by
      intro s mem
      rcases List.mem_append.mp mem with name | last
      · exact (names s name).1
      · exact List.mem_singleton.mp last ▸ hex.segment.noSlash
    intro s mem
    rw [splitOn_intercalate_slash noSlash (by simp)] at mem
    rcases List.mem_append.mp mem with name | last
    · exact (names s name).2
    · exact List.mem_singleton.mp last ▸ plainSegment_of_hexKey hex

/-! ## Below the cache directory, and apart -/

/-- Every chunk file resolves below the cache directory: from wherever the directory leads, the
file's segments only descend. -/
theorem reach_chunkFile (here base : List String) (remote : String) (r : ByteRange) :
    reach here (base ++ chunkFile remote r) = reach here base ++ chunkFile remote r := by
  rw [reach_append, reach_of_plain _ fun s mem => plainSegment_of_mem_chunkFile mem]

/-- Chunk names stay below the cache directory and apart.  Every chunk file of a version is plain
segments ending in the range's name, so it resolves below the cache directory whatever the remote
says; the sharded path of a cache key is a plain remote; and for plain remotes the key of a chunk
in memory, and its file, each name the remote, the size and the range. -/
theorem chunk_names_stay_below_and_apart :
    (∀ (remote : String) (size : Nat) (r : ByteRange),
      (∀ s ∈ chunkFile (versionPath remote size) r, PlainSegment s) ∧
      (chunkFile (versionPath remote size) r).getLast? = some (rangeName r) ∧
      ∀ here base, reach here (base ++ chunkFile (versionPath remote size) r) =
        reach here base ++ chunkFile (versionPath remote size) r) ∧
    (∀ (key : String) (depth : Nat) (p : String), Key.HexKey key → Key.shardedPath key depth = .ok p →
      PlainRemote p) ∧
    (∀ (remote remote' : String) (size size' : Nat) (r r' : ByteRange),
      PlainRemote remote → PlainRemote remote' →
      (chunkKey (versionPath remote size) r = chunkKey (versionPath remote' size') r' ∨
        chunkFile (versionPath remote size) r = chunkFile (versionPath remote' size') r') →
      remote = remote' ∧ size = size' ∧ r = r') := by
  refine ⟨fun remote size r => ⟨fun s mem => plainSegment_of_mem_chunkFile mem, by simp [chunkFile],
      fun here base => reach_chunkFile here base _ r⟩,
    fun key depth p hex sharded => plainRemote_shardedPath hex sharded, ?_⟩
  rintro remote remote' size size' r r' plain plain' (sameKey | sameFile)
  · exact plain.chunkKey_inj plain' sameKey
  · exact plain.chunkFile_inj plain' sameFile

/-- A file read at ten bytes and again at eight keeps the chunks of the two versions apart. -/
theorem resized_file_chunks_apart :
    PlainRemote "f1" ∧ chunkKey (versionPath "f1" 10) ⟨0, 3⟩ ≠ chunkKey (versionPath "f1" 8) ⟨0, 3⟩ := by
  have plain : PlainRemote "f1" := by
    intro s mem
    rw [splitOn_slash, List.splitOn_eq_singleton (by decide)] at mem
    simp only [List.map_cons, List.map_nil, String.ofList_toList, List.mem_singleton] at mem
    exact mem ▸ plainSegment_of_no_dot (by decide) (by decide)
  refine ⟨plain, fun same => ?_⟩
  have sizes := (chunk_names_stay_below_and_apart.2.2 _ _ _ _ _ _ plain plain (.inl same)).2.1
  exact absurd sizes (by decide)

end Cache

end ChunkProxy
