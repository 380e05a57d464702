import ChunkProxy.Proofs.ChunkPaths
import ChunkProxy.Proofs.RangeHeader
import ChunkProxy.Proofs.ShardLeaf
/-!
# Paths below a directory

A directory `d` and a name `n` make the path `joinDir d n`: `d/n`, or `n` alone at the root.
`relativeTo` reads the name back (`relativeTo_eq_some_iff`), and a name either has no slash or
splits at its first one (`noSlash_or_split`).  Three relations of a path to a directory are
stated with them:

* `DirectlyIn d p`: `p` names an entry of `d` itself, a name without slashes;
* `Toward d p s`: `s` is the subdirectory of `d` that `p` passes through;
* `Occupied d ps`: some path of `ps` lies below `d`.

A cleaned directory is made of segments joined by slashes (`Clean`): cleaning gives one
(`clean_cleanDir`) and leaves one as it is (`Clean.cleanDir_eq`).  A clean directory other
than the root is its last segment in its parent, and the parent is clean too
(`Clean.eq_joinDir_parentDir`); so the paths that pass through it, seen from the parent, are
the paths below it (`Clean.toward_parentDir_iff`).
-/

namespace ChunkProxy.Fs

set_option autoImplicit false

/-! ## Names below a directory -/

theorem joinDir_append (dir name rest : String) :
    joinDir dir (name ++ "/" ++ rest) = joinDir dir name ++ "/" ++ rest := by
  unfold joinDir
  split <;> simp [String.append_assoc]

/-- The name a path has below a directory is what is left once the directory and a slash
are dropped. -/
theorem relativeTo_eq_some_iff {dir path name : String} :
    relativeTo dir path = some name ↔ path = joinDir dir name := by
  unfold relativeTo joinDir
  split
  · simp
  · simp only [Option.map_eq_some_iff, Option.bind_eq_some_iff]
    constructor
    · rintro ⟨sl, ⟨rest, dropped, slash⟩, rfl⟩
      rw [(dropPrefix?_iff path dir rest.toString).mp ⟨rest, dropped, rfl⟩,
        (dropPrefix?_iff rest.toString "/" sl.toString).mp ⟨sl, slash, rfl⟩, String.append_assoc]
    · intro split
      obtain ⟨rest, dropped, restText⟩ :=
        (dropPrefix?_iff path dir ("/" ++ name)).mpr (by rw [split, String.append_assoc])
      obtain ⟨sl, slash, slText⟩ := (dropPrefix?_iff rest.toString "/" name).mpr restText
      exact ⟨sl, ⟨rest, dropped, slash⟩, slText⟩

/-- A list of characters has no separator, or splits at its first one. -/
theorem notMem_or_split (sep : Char) (cs : List Char) :
    sep ∉ cs ∨ ∃ pre post, sep ∉ pre ∧ cs = pre ++ sep :: post := by
  by_cases has : sep ∈ cs
  · obtain ⟨split, first⟩ := RangeSpec.split_first.mpr ⟨List.contains_iff_mem.mpr has, rfl, rfl⟩
    exact .inr ⟨_, _, first, split⟩
  · exact .inl has

theorem noSlash_or_split (s : String) :
    '/' ∉ s.toList ∨ ∃ name rest, '/' ∉ name.toList ∧ s = name ++ "/" ++ rest := by
  rcases notMem_or_split '/' s.toList with none | ⟨pre, post, first, split⟩
  · exact .inl none
  · refine .inr ⟨String.ofList pre, String.ofList post, by simpa using first, ?_⟩
    apply String.toList_injective
    simpa using split

theorem splitOn_slash_of_noSlash {s : String} (noSlash : '/' ∉ s.toList) : s.splitOn "/" = [s] := by
  rw [splitOn_slash, List.splitOn_eq_singleton noSlash]
  simp

theorem splitOn_slash_append {name : String} (noSlash : '/' ∉ name.toList) (rest : String) :
    (name ++ "/" ++ rest).splitOn "/" = name :: rest.splitOn "/" := by
  rw [splitOn_slash, splitOn_slash, String.toList_append, String.toList_append,
    show "/".toList = ['/'] from rfl, List.append_assoc, List.singleton_append,
    List.splitOn_append_cons_self_of_not_mem noSlash]
  simp

theorem splitOn_slash_ne_nil (s : String) : s.splitOn "/" ≠ [] := by
  simp [splitOn_slash]

/-- No piece of a split at slashes holds a slash. -/
theorem noSlash_of_mem_splitOn {cs piece : List Char} (mem : piece ∈ cs.splitOn '/') : '/' ∉ piece := by
  rcases notMem_or_split '/' cs with none | ⟨pre, post, first, split⟩
  · rw [List.splitOn_eq_singleton none, List.mem_singleton] at mem
    exact mem ▸ none
  · rw [split, List.splitOn_append_cons_self_of_not_mem first, List.mem_cons] at mem
    rcases mem with rfl | later
    · exact first
    · exact noSlash_of_mem_splitOn later
termination_by cs.length
decreasing_by simp [split]; omega

theorem startsWith_iff {s pre : String} : s.startsWith pre = true ↔ ∃ rest, s = pre ++ rest := by
  rw [String.startsWith_string_iff]
  constructor
  · rintro ⟨t, joined⟩
    exact ⟨String.ofList t, String.toList_injective (by simp [joined])⟩
  · rintro ⟨rest, rfl⟩
    simp

/-! ## Where a path stands relative to a directory -/

/-- A path names an entry of a directory itself. -/
def DirectlyIn (dir path : String) : Prop := ∃ name, '/' ∉ name.toList ∧ path = joinDir dir name

/-- `sub` is the subdirectory of `dir` that `path` passes through. -/
def Toward (dir path sub : String) : Prop :=
  ∃ name rest, '/' ∉ name.toList ∧ sub = joinDir dir name ∧ path = sub ++ "/" ++ rest

/-- Some path of `paths` lies below `dir`. -/
def Occupied (dir : String) (paths : List String) : Prop := ∃ p ∈ paths, ∃ rest, p = dir ++ "/" ++ rest

/-! ## Clean directories -/

/-- A clean directory: segments, neither empty nor `.` and without slashes, joined by
slashes.  The root is the empty one. -/
def Clean (dir : String) : Prop := ∃ segs : List String, (∀ s ∈ segs, Segment s) ∧ dir = "/".intercalate segs

theorem clean_cleanDir (dir : String) : Clean (cleanDir dir) := by
  refine ⟨_, ?_, rfl⟩
  intro s mem
  obtain ⟨kept, plain⟩ := List.mem_filter.mp mem
  obtain ⟨piece, piece_mem, rfl⟩ := List.mem_map.mp kept
  simp only [Bool.and_eq_true, Bool.not_eq_eq_eq_not, Bool.not_true, bne_iff_ne, ne_eq] at plain
  exact ⟨by simpa using noSlash_of_mem_splitOn piece_mem, fun empty => by simp [empty] at plain, plain.2⟩

/-- Segments joined by slashes are empty only when there are none. -/
theorem intercalate_ne_empty {segs : List String} (segments : ∀ s ∈ segs, Segment s) (nonempty : segs ≠ []) :
    "/".intercalate segs ≠ "" := by
  intro empty
  have pieces := splitOn_intercalate_slash (fun s mem => (segments s mem).noSlash) nonempty
  rw [empty] at pieces
  have root : "" ∈ segs := by rw [← pieces, splitOn_slash]; simp
  exact (segments "" root).nonempty rfl

theorem Clean.cleanDir_eq {dir : String} (clean : Clean dir) : cleanDir dir = dir := by
  obtain ⟨segs, segments, rfl⟩ := clean
  by_cases empty : segs = []
  · subst empty
    rfl
  · unfold cleanDir
    rw [← splitOn_slash, splitOn_intercalate_slash (fun s mem => (segments s mem).noSlash) empty,
      List.filter_eq_self.mpr]
    intro s mem
    simp [(segments s mem).nonempty, (segments s mem).notDot]

theorem cleanDir_cleanDir (dir : String) : cleanDir (cleanDir dir) = cleanDir dir :=
  (clean_cleanDir dir).cleanDir_eq

theorem parentDir_append (dir : String) {name : String} (noSlash : '/' ∉ name.toList) :
    parentDir (dir ++ "/" ++ name) = dir := by
  have others : ∀ c ∈ name.toList.reverse, decide (c ≠ '/') = true := by
    intro c mem
    simp only [List.mem_reverse] at mem
    simpa using fun same : c = '/' => noSlash (same ▸ mem)
  unfold parentDir
  rw [if_pos (by simp)]
  simp only [String.toList_append, List.reverse_append]
  -- read backwards, the name holds no slash: the first one met is the one before it
  rw [List.dropWhile_append_of_pos others]
  simp

/-- A clean directory other than the root is its last segment in its parent, which is clean. -/
theorem Clean.eq_joinDir_parentDir {dir : String} (clean : Clean dir) (nonempty : dir ≠ "") :
    Clean (parentDir dir) ∧ ∃ name, '/' ∉ name.toList ∧ dir = joinDir (parentDir dir) name := by
  obtain ⟨segs, segments, rfl⟩ := clean
  have some : segs ≠ [] := by
    rintro rfl
    exact nonempty rfl
  obtain ⟨init, last, rfl⟩ : ∃ init last, segs = init ++ [last] :=
    ⟨segs.dropLast, segs.getLast some, (List.dropLast_append_getLast some).symm⟩
  have lastSeg := segments last (by simp)
  by_cases top : init = []
  · subst top
    have root : parentDir last = "" := by
      unfold parentDir
      rw [if_neg (by simpa using lastSeg.noSlash)]
    simp only [List.nil_append, String.intercalate_singleton]
    refine ⟨root ▸ ⟨[], by simp, rfl⟩, last, lastSeg.noSlash, ?_⟩
    rw [root]
    rfl
  · have above : ∀ s ∈ init, Segment s := fun s mem => segments s (by simp [mem])
    rw [String.intercalate_append_of_ne_nil top (by simp), String.intercalate_singleton,
      parentDir_append _ lastSeg.noSlash]
    refine ⟨⟨init, above, rfl⟩, last, lastSeg.noSlash, ?_⟩
    unfold joinDir
    rw [if_neg (by simpa using intercalate_ne_empty above top)]

/-- Seen from its parent, the paths through a clean directory are those below it. -/
theorem Clean.toward_parentDir_iff {dir path : String} (clean : Clean dir) (nonempty : dir ≠ "") :
    Toward (parentDir dir) path dir ↔ ∃ rest, path = dir ++ "/" ++ rest := by
  obtain ⟨-, last, noSlash, inParent⟩ := clean.eq_joinDir_parentDir nonempty
  constructor
  · rintro ⟨name, rest, -, -, below⟩
    exact ⟨rest, below⟩
  · rintro ⟨rest, below⟩
    exact ⟨last, rest, noSlash, inParent, below⟩

end ChunkProxy.Fs
