import ChunkProxy.Proofs.HostText
import ChunkProxy.Url.Parse
/-!
# What the reader guarantees of a web URL

A URL read with an authority and a special scheme is hierarchical (`Url.Hierarchical`): its
credentials hold no delimiter of an authority, its host is canonical, its path is segments
holding no slash, `?` or `#`, and its query holds no `#`.  Every absolute URL read with the
scheme `http` or `https` is one (`parse_hierarchical`).  A reference read against a special
base other than `file` whose path is segments gets a path of segments
(`parse_based_segments`).

Both facts about text come from percent-encoding: an encoded component is escapes and the
characters its set lets stand (`mem_encodeChars`), so the credentials' set takes every
delimiter out, and encoding adds no slash, `?` or `#` to a segment read up to the first of
them.  The path is read one segment at a time (`appendSegment_segments`), and the whole
path keeps the invariant (`readSegments_segments`).
-/

namespace ChunkProxy.Url

set_option autoImplicit false

open String (utf8EncodeChar)

/-! ## Percent-encoded components -/

theorem encodeChar_utf8 (c : Char) : Utf8.encodeChar c = utf8EncodeChar c := by
  rw [Utf8.encodeChar, Utf8.encode_eq_flatMap]
  simp

/-- A byte below `0x80` stands only in the encoding of the character it is. -/
theorem ascii_of_mem_utf8EncodeChar {c : Char} {b : UInt8} (mem : b ∈ utf8EncodeChar c) (small : b < 0x80) :
    b = UInt8.ofNat c.toNat ∧ c = Char.ofNat b.toNat := by
  have low : b.toNat < 128 := by simpa [UInt8.lt_iff_toNat_lt] using small
  rcases Utf8.utf8EncodeChar_cases c with ⟨one, enc⟩ | ⟨big, -, enc⟩ | ⟨big, -, enc⟩ | ⟨big, enc⟩ <;>
    rw [enc] at mem <;> simp only [List.mem_cons, List.not_mem_nil, or_false] at mem
  · rw [mem, Utf8.toNat_byte (by omega), Char.ofNat_toNat]
    exact ⟨rfl, rfl⟩
  all_goals
    rcases mem with rfl | rfl | rfl | rfl <;> simp only [UInt8.toNat_ofNat', Nat.reducePow] at low <;> omega

/-- A percent-encoded component is escapes (`%` and uppercase hexadecimal digits) and
characters of the text that the set lets stand. -/
theorem mem_encodeChars {set : EncodeSet} {cs : List Char} {c : Char} (mem : c ∈ (encodeChars set cs).toList) :
    c = '%' ∨ (∃ d < 16, c = hexUpper d) ∨ (c ∈ cs ∧ set (UInt8.ofNat c.toNat) = false) := by
  simp only [encodeChars, String.toList_ofList, List.mem_flatMap, encodeChar, encodeChar_utf8] at mem
  obtain ⟨c', source, b, byte, written⟩ := mem
  unfold encodeByte at written
  split at written
  · simp only [escapeByte, List.mem_cons, List.not_mem_nil, or_false] at written
    rcases written with rfl | rfl | rfl
    · exact .inl rfl
    · exact .inr (.inl ⟨_, by have := b.toNat_lt; omega, rfl⟩)
    · exact .inr (.inl ⟨_, Nat.mod_lt _ (by decide), rfl⟩)
  · rename_i kept
    simp only [Bool.or_eq_true, decide_eq_true_eq, not_or, Bool.not_eq_true] at kept
    rw [List.mem_singleton] at written
    have small : b < 0x80 := by
      simp only [UInt8.le_iff_toNat_le, UInt8.lt_iff_toNat_lt] at kept ⊢
      omega
    obtain ⟨rfl, same⟩ := ascii_of_mem_utf8EncodeChar byte small
    rw [written, ← same]
    exact .inr (.inr ⟨source, kept.2⟩)

/-- The characters that end a path segment, whatever the scheme. -/
def segmentEnds : List Char := ['/', '?', '#']

/-- A segment as it stands in a path: no slash, question mark or hash. -/
def PathSegment (s : String) : Prop := ∀ c ∈ s.toList, c ∉ segmentEnds

theorem not_mem_encodeChars {set : EncodeSet} {cs : List Char} {x : Char} (plain : x ≠ '%' ∧ ∀ d < 16, hexUpper d ≠ x)
    (absent : x ∉ cs ∨ set (UInt8.ofNat x.toNat) = true) : x ∉ (encodeChars set cs).toList := by
  intro mem
  rcases mem_encodeChars mem with percent | ⟨d, small, hex⟩ | ⟨inside, kept⟩
  · exact plain.1 percent
  · exact plain.2 d small hex.symm
  · rcases absent with outside | encoded
    · exact outside inside
    · rw [encoded] at kept
      cases kept

theorem hexUpper_not_segmentEnd : ∀ d < 16, hexUpper d ∉ segmentEnds := by decide

/-- Text free of segment ends stays free of them once percent-encoded. -/
theorem encodeChars_pathSegment (set : EncodeSet) {cs : List Char} (free : ∀ c ∈ cs, c ∉ segmentEnds) :
    PathSegment (encodeChars set cs) := by
  intro c mem stop
  have escape : c ≠ '%' ∧ ∀ d < 16, hexUpper d ≠ c := by
    refine ⟨fun percent => by subst percent; simp [segmentEnds] at stop, fun d small same => ?_⟩
    exact hexUpper_not_segmentEnd d small (same ▸ stop)
  exact not_mem_encodeChars escape (.inl fun inside => free c inside stop) mem

/-- A drive letter split off the raw text of a segment is made of its characters. -/
theorem splitDrive_segments {file : Bool} {segs segs' : List String} {raw raw' : List Char}
    (split : splitDrive file segs raw = (segs', raw')) (before : ∀ s ∈ segs, PathSegment s)
    (free : ∀ c ∈ raw, c ∉ segmentEnds) :
    (∀ s ∈ segs', PathSegment s) ∧ ∀ c ∈ raw', c ∉ segmentEnds := by
  unfold splitDrive at split
  split at split
  · rename_i a b more
    split at split
    · cases split
      refine ⟨fun s mem => ?_, fun c mem => free c (by simp_all)⟩
      rcases List.mem_append.mp mem with old | drive
      · exact before s old
      · rw [List.mem_singleton.mp drive]
        intro c letter
        simp only [String.toList_ofList, List.mem_cons, List.not_mem_nil, or_false] at letter
        rcases letter with rfl | rfl
        · exact free c (by simp)
        · decide
    · cases split
      exact ⟨before, free⟩
  · cases split
    exact ⟨before, free⟩

theorem mem_parentPath {segs : List String} {s : String} (mem : s ∈ parentPath segs) : s ∈ segs := by
  unfold parentPath at mem
  split at mem
  · split at mem
    · exact mem
    · exact (List.dropLast_sublist segs).subset mem
  · simp at mem

/-- One segment put onto segments free of segment ends keeps them so. -/
theorem appendSegment_segments {file drive slashNext : Bool} {segs segs' : List String} {drive' : Bool}
    {raw : List Char} (step : appendSegment file segs drive raw slashNext = (segs', drive'))
    (before : ∀ s ∈ segs, PathSegment s) (free : ∀ c ∈ raw, c ∉ segmentEnds) : ∀ s ∈ segs', PathSegment s := by
  unfold appendSegment at step
  rcases split : splitDrive file segs raw with ⟨segs₁, raw₁⟩
  rw [split] at step
  obtain ⟨kept, free₁⟩ := splitDrive_segments split before free
  have buffer := encodeChars_pathSegment pathSet free₁
  dsimp only at step
  have onto : ∀ {l : List String} {x : String}, (∀ s ∈ l, PathSegment s) → PathSegment x →
      ∀ s ∈ l ++ [x], PathSegment s := by
    intro l x old new s mem
    rcases List.mem_append.mp mem with inside | last
    · exact old s inside
    · exact List.mem_singleton.mp last ▸ new
  have empty : PathSegment "" := by simp [PathSegment]
  have popped : ∀ s ∈ parentPath segs₁, PathSegment s := fun s mem => kept s (mem_parentPath mem)
  -- `..` and `.` keep segments already there and may add an empty one; anything else adds
  -- the encoded text, or a drive letter made of its first character and a colon
  split at step
  · obtain ⟨rfl, -⟩ := Prod.mk.inj step
    split
    · exact popped
    · exact onto popped empty
  · split at step
    · obtain ⟨rfl, -⟩ := Prod.mk.inj step
      split
      · exact kept
      · exact onto kept empty
    · split at step
      · obtain ⟨rfl, -⟩ := Prod.mk.inj step
        refine onto kept fun c mem => ?_
        simp only [String.toList_ofList, List.mem_append, List.mem_singleton] at mem
        rcases mem with first | rfl
        · exact buffer c (List.mem_of_mem_take first)
        · decide
      · obtain ⟨rfl, -⟩ := Prod.mk.inj step
        exact onto kept buffer

/-- The raw text of a segment runs up to the first character that ends it. -/
theorem free_of_mem_takeWhile {special : Bool} {cs : List Char} {c : Char}
    (mem : c ∈ cs.takeWhile fun c => !endsSegment special c) : c ∉ segmentEnds := by
  have kept := List.mem_takeWhile_imp mem
  intro stop
  simp only [segmentEnds, List.mem_cons, List.not_mem_nil, or_false] at stop
  rcases stop with rfl | rfl | rfl <;> simp [endsSegment, isSlash] at kept

/-- Every segment read onto segments free of segment ends is free of them. -/
theorem readSegments_segments (special file : Bool) (segs : List String) (drive : Bool) (cs : List Char)
    (before : ∀ s ∈ segs, PathSegment s) : ∀ s ∈ (readSegments special file segs drive cs).segs, PathSegment s := by
  fun_induction readSegments special file segs drive cs with
  | case1 _ _ cs _ _ _ _ step _ _ _ _ _ _ ih =>
    exact ih (appendSegment_segments step before fun c mem => free_of_mem_takeWhile mem)
  | case2 _ _ cs _ _ _ _ step => exact appendSegment_segments step before fun c mem => free_of_mem_takeWhile mem
  | case3 _ _ cs _ _ _ _ step => exact appendSegment_segments step before fun c mem => free_of_mem_takeWhile mem

/-! ## URLs read with an authority -/

/-- The characters that end a credential or what follows it in an authority. -/
def delimiters : List Char := [':', '/', '?', '#', '@']

theorem hexUpper_not_delimiter : ∀ d < 16, hexUpper d ∉ delimiters := by decide

theorem userinfoSet_delimiter : ∀ x ∈ delimiters, userinfoSet (UInt8.ofNat x.toNat) = true := by
  intro x delimiter
  simp only [delimiters, List.mem_cons, List.not_mem_nil, or_false] at delimiter
  rcases delimiter with rfl | rfl | rfl | rfl | rfl <;> rfl

/-- A credential is encoded so that it holds no delimiter. -/
theorem delimiter_not_mem_credential (cs : List Char) : ∀ x ∈ delimiters, x ∉ (encodeChars userinfoSet cs).toList := by
  intro x delimiter
  refine not_mem_encodeChars ⟨fun percent => ?_, fun d small same => ?_⟩ (.inr (userinfoSet_delimiter x delimiter))
  · subst percent
    simp [delimiters] at delimiter
  · exact hexUpper_not_delimiter d small (same ▸ delimiter)

/-- Credentials as an authority holds them: without delimiters. -/
def Credential (s : String) : Prop := ∀ c ∈ s.toList, c ∉ delimiters

theorem splitCredentials_credential {auth : List Char} {pathFollows : Bool} {name password : String}
    {hostPort : List Char} (split : splitCredentials auth pathFollows = .ok ((name, password), hostPort)) :
    Credential name ∧ Credential password := by
  have empty : Credential "" := by simp [Credential]
  unfold splitCredentials at split
  split at split
  · cases split
    exact ⟨empty, empty⟩
  · split at split
    · cases split
    · cases split
      exact ⟨empty, empty⟩
  · cases split
    exact ⟨fun c mem delimiter => delimiter_not_mem_credential _ c delimiter mem,
      fun c mem delimiter => delimiter_not_mem_credential _ c delimiter mem⟩

theorem ok_of_bind_ok {ε α β : Type} {x : Except ε α} {f : α → Except ε β} {r : β} (bound : x >>= f = .ok r) :
    ∃ a, x = .ok a ∧ f a = .ok r := by
  cases x with
  | error e => cases bound
  | ok a => exact ⟨a, rfl, bound⟩

/-- The host of a special URL is canonical. -/
theorem readHostPort_canonical {scheme : String} (special : isSpecial scheme = true) {credentials : String × String}
    {hostPort : List Char} {host : Host} {port : Option Nat}
    (read : readHostPort scheme credentials hostPort = .ok (host, port)) : host.Canonical := by
  unfold readHostPort at read
  extract_lets special' at read
  rcases split : splitHostPort false hostPort with ⟨hostText, portText⟩
  rw [split] at read
  simp only [special', special, Bool.true_and, ↓reduceIte] at read
  split at read
  · contradiction
  · obtain ⟨h, parsed, rest⟩ := ok_of_bind_ok read
    -- what follows the host only checks it and reads the port
    have same : h = host := by
      split at rest
      · contradiction
      · split at rest
        · obtain ⟨p, -, done⟩ := ok_of_bind_ok rest
          cases done
          rfl
        · cases rest
          rfl
    exact same ▸ parseSpecialHost_canonical parsed

/-- A query runs up to the first hash. -/
theorem readQueryFragment_query {special : Bool} {cs : List Char} {q : String} (read : (readQueryFragment special cs).1 = some q) :
    '#' ∉ q.toList := by
  unfold readQueryFragment at read
  extract_lets qset at read
  split at read
  · dsimp only at read
    cases read
    refine not_mem_encodeChars ⟨by decide, by decide⟩ (.inl fun mem => ?_)
    simpa using List.mem_takeWhile_imp mem
  · cases read
  · cases read

/-- The path after the authority of a special URL is segments without segment ends, and
its query holds no hash. -/
theorem readAfterAuthority_spec (rest : List Char) :
    (∀ s ∈ (readAfterAuthority true rest).1, PathSegment s) ∧ ∀ q ∈ (readAfterAuthority true rest).2.1, '#' ∉ q.toList := by
  unfold readAfterAuthority readPath
  exact ⟨readSegments_segments true false [] false _ (by simp), fun q mem => readQueryFragment_query mem⟩

/-- A URL as the reader gives it when it reads an authority with a special scheme:
credentials without delimiters, a canonical host, a path of segments without segment ends,
and a query without a hash. -/
structure Hierarchical (u : Url) : Prop where
  username : Credential u.username
  password : Credential u.password
  host : ∃ h, u.host = some h ∧ h.Canonical
  path : ∃ items, u.path = .segments items ∧ ∀ s ∈ items, PathSegment s
  query : ∀ q ∈ u.query, '#' ∉ q.toList

/-- A URL read with an authority keeps its scheme, and with a special scheme it is
hierarchical. -/
theorem readAuthority_spec {scheme : String} {cs : List Char} {u : Url} (read : readAuthority scheme cs = .ok u) :
    u.scheme = scheme ∧ (isSpecial scheme = true → u.Hierarchical) := by
  unfold readAuthority at read
  extract_lets special' endsAuthority auth rest at read
  obtain ⟨⟨⟨name, password⟩, hostPort⟩, split, afterCredentials⟩ := ok_of_bind_ok read
  obtain ⟨⟨host, port⟩, hostRead, done⟩ := ok_of_bind_ok afterCredentials
  obtain ⟨named, guarded⟩ := splitCredentials_credential split
  rcases after : readAfterAuthority special' rest with ⟨segs, query, fragment⟩
  rw [after] at done
  cases done
  refine ⟨rfl, fun special => ?_⟩
  simp only [special', special] at after
  have ⟨segments, hashFree⟩ := readAfterAuthority_spec rest
  rw [after] at segments hashFree
  exact ⟨named, guarded, ⟨host, rfl, readHostPort_canonical special hostRead⟩, ⟨segs, rfl, segments⟩, hashFree⟩

theorem readFile_scheme {cs : List Char} {u : Url} (read : readFile cs = .ok u) : u.scheme = "file" := by
  unfold readFile at read
  obtain ⟨⟨host, r⟩, -, done⟩ := ok_of_bind_ok read
  cases done
  rfl

/-- An absolute URL read with scheme `http` or `https` is hierarchical. -/
theorem parse_hierarchical {raw : String} {u : Url} (read : parse raw = .ok u)
    (web : u.scheme = "http" ∨ u.scheme = "https") : u.Hierarchical := by
  have special : isSpecial u.scheme = true := by rcases web with web | web <;> simp [web, isSpecial]
  have notFile : u.scheme ≠ "file" := by rcases web with web | web <;> simp [web]
  rcases split : splitScheme (clean raw) with _ | ⟨scheme, rest⟩
  · unfold parse at read
    simp only [split] at read
    cases read
  · unfold parse at read
    simp only [split] at read
    unfold readAfterScheme at read
    split at read
    · exact absurd (readFile_scheme read) notFile
    · split at read
      · obtain ⟨same, hierarchical⟩ := readAuthority_spec read
        exact hierarchical (same ▸ special)
      · -- a scheme that is not special stays with the URL
        rename_i plain
        have kept : u.scheme = scheme := by
          split at read
          · exact (readAuthority_spec read).1
          · cases read
            rfl
          · cases read
            rfl
        exact absurd (kept ▸ special) plain

/-- What a base with a path of segments reads a reference as has a path of segments. -/
theorem readRelative_segments {b : Url} {items : List String} (base : b.path = .segments items)
    (special : isSpecial b.scheme = true) {cs : List Char} {u : Url} (read : readRelative b cs = .ok u) :
    ∃ items', u.path = .segments items' := by
  obtain ⟨scheme, username, password, host, port, path, query, fragment⟩ := b
  dsimp only at base special
  subst base
  unfold readRelative at read
  dsimp only at read
  split at read
  · cases read
    exact ⟨items, rfl⟩
  · cases read
    exact ⟨items, rfl⟩
  · cases read
    exact ⟨items, rfl⟩
  · split_ifs at read
    · obtain ⟨items', path, -⟩ := ((readAuthority_spec read).2 special).path
      exact ⟨items', path⟩
    · cases read
      exact ⟨_, rfl⟩
    · cases read
      exact ⟨_, rfl⟩

/-- A reference that needs a base, read against a base with a special scheme other than `file`
and a path of segments, has a path of segments. -/
theorem parse_based_segments {raw : String} (unread : parse raw = .error .relativeWithoutBase) {b : Url}
    {items : List String} (base : b.path = .segments items) (special : isSpecial b.scheme = true)
    (notFile : b.scheme ≠ "file") {u : Url} (read : parse raw (some b) = .ok u) : ∃ items', u.path = .segments items' := by
  unfold parse at unread read
  cases split : splitScheme (clean raw) with
  | none =>
    simp only [split] at read
    split at read
    · cases read
      exact ⟨items, base⟩
    · have based : b.cannotBeABase = false := by simp [cannotBeABase, base]
      simp only [based, Bool.false_eq_true, if_false, beq_iff_eq, notFile] at read
      exact readRelative_segments base special read
  | some sr =>
    obtain ⟨scheme, rest⟩ := sr
    simp only [split] at unread read
    unfold readAfterScheme at unread read
    -- a scheme of its own: the base matters only for a special scheme named by the base
    by_cases file : (scheme == "file") = true
    · rw [if_pos file] at unread read
      rw [unread] at read
      cases read
    rw [if_neg file] at unread read
    by_cases spec : isSpecial scheme = true
    · rw [if_pos spec] at unread read
      dsimp only at unread read
      split_ifs at read
      · exact readRelative_segments base special read
      · rw [unread] at read
        cases read
    · rw [if_neg spec] at unread read
      rw [unread] at read
      cases read

end ChunkProxy.Url
