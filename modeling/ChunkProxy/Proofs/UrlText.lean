import ChunkProxy.Proofs.UrlReading
/-!
# A web URL is told by its text

`Url.serialize` writes the scheme, `:`, `//`, the credentials, the host, the port, the path,
the query and the fragment one after another.  In a hierarchical URL each part ends where the
next one's first character stands, and no earlier part holds that character: the scheme ends
at the first `:`, the authority at the first `/`, `?` or `#`, the credentials at their `@`,
the host where its port's colon stands, the path at the first `?` or `#` and the query at
the first `#`.  So two hierarchical URLs with the same text are the same URL
(`Hierarchical.serialize_inj`), and the text of a path and a query names them both
(`Hierarchical.pathText_queryText_inj`).

The cache key relies on no more of the reader than `WebReading` states, what the URL Standard
documents of it; `parse_webReading` shows the reader gives it.
-/

namespace ChunkProxy.Url

set_option autoImplicit false

/-! ## Components told apart by their text -/

theorem queryText_head (u : Url) : ∀ c ∈ u.queryText.toList.head?, (c == '?') = true := by
  unfold queryText
  split <;> simp

theorem queryText_inj {u u' : Url} (same : u.queryText = u'.queryText) : u.query = u'.query := by
  unfold queryText at same
  split at same <;> split at same
  · rename_i q query _ q' query'
    rw [query, query', (String.append_right_inj "?").mp same]
  · simp [← String.toList_inj] at same
  · simp [← String.toList_inj] at same
  · rename_i query _ query'
    rw [query, query']

theorem fragmentText_head (u : Url) : ∀ c ∈ u.fragmentText.toList.head?, (c == '#') = true := by
  unfold fragmentText
  split <;> simp

theorem fragmentText_inj {u u' : Url} (same : u.fragmentText = u'.fragmentText) : u.fragment = u'.fragment := by
  unfold fragmentText at same
  split at same <;> split at same
  · rename_i f fragment _ f' fragment'
    rw [fragment, fragment', (String.append_right_inj "#").mp same]
  · simp [← String.toList_inj] at same
  · simp [← String.toList_inj] at same
  · rename_i fragment _ fragment'
    rw [fragment, fragment']

/-- A path of segments is each segment after a slash. -/
theorem toList_serialize_segments (items : List String) :
    (Path.segments items).serialize.toList = items.flatMap fun s => '/' :: s.toList := by
  simp only [Path.serialize, String.toList_join]
  induction items with
  | nil => rfl
  | cons s items ih => simp [ih]

/-- Segments without slashes are told by the path they make. -/
theorem segments_inj_of_serialize :
    ∀ {items items' : List String}, (∀ s ∈ items, PathSegment s) → (∀ s ∈ items', PathSegment s) →
      (items.flatMap fun s => '/' :: s.toList) = items'.flatMap (fun s => '/' :: s.toList) → items = items'
  | [], [], _, _, _ => rfl
  | [], _ :: _, _, _, same => by simp at same
  | _ :: _, [], _, _, same => by simp at same
  | s :: items, s' :: items', plain, plain', same => by
    simp only [List.flatMap_cons, List.cons_append, List.cons.injEq, true_and] at same
    have noSlash : ∀ {t : String}, PathSegment t → ∀ c ∈ t.toList, (c == '/') = false :=
      fun segment => stop_free fun mem => segment '/' mem (by simp [segmentEnds])
    have next : ∀ (l : List String), ∀ c ∈ (l.flatMap fun s => '/' :: s.toList).head?, (c == '/') = true := by
      intro l c mem
      cases l with
      | nil => simp at mem
      | cons t l =>
        simp only [List.flatMap_cons, List.cons_append, List.head?_cons, Option.mem_def, Option.some.injEq] at mem
        simp [← mem]
    obtain ⟨first, rest⟩ := append_inj_of_stop (noSlash (plain s (by simp))) (noSlash (plain' s' (by simp)))
      (next items) (next items') same
    rw [String.toList_injective first, segments_inj_of_serialize (fun t mem => plain t (by simp [mem]))
      (fun t mem => plain' t (by simp [mem])) rest]

/-- The password as written after the user name: a colon and the password, or nothing. -/
theorem passwordText_inj {p p' : String}
    (same : (if p.isEmpty then "" else ":" ++ p) = (if p'.isEmpty then "" else ":" ++ p')) : p = p' := by
  by_cases empty : p.isEmpty <;> by_cases empty' : p'.isEmpty <;>
    simp only [empty, empty', if_true, if_false, Bool.false_eq_true] at same
  · simp_all [String.isEmpty_iff]
  · simp [← String.toList_inj] at same
  · simp [← String.toList_inj] at same
  · exact (String.append_right_inj ":").mp same

theorem not_mem_of_credential {s : String} (credential : Credential s) {x : Char} (delimiter : x ∈ delimiters) :
    x ∉ s.toList := fun mem => credential x mem delimiter

/-- Credentials are written as the user name, the password after a colon, and an `@`. -/
theorem userinfoText_of_ne {u : Url} (given : ¬ (u.username.isEmpty && u.password.isEmpty) = true) :
    u.userinfoText.toList =
      (u.username ++ (if u.password.isEmpty then "" else ":" ++ u.password)).toList ++ ['@'] := by
  unfold userinfoText
  rw [if_neg given]
  simp

/-- Credentials free of delimiters and the text after them, which holds no `@`, are told by
the text they make together. -/
theorem userinfoText_append_inj {u u' : Url} (name : Credential u.username) (pass : Credential u.password)
    (name' : Credential u'.username) (pass' : Credential u'.password) {r r' : List Char}
    (free : '@' ∉ r) (free' : '@' ∉ r') (same : u.userinfoText.toList ++ r = u'.userinfoText.toList ++ r') :
    u.username = u'.username ∧ u.password = u'.password ∧ r = r' := by
  have written : ∀ {v : Url}, Credential v.username → Credential v.password →
      ∀ c ∈ (v.username ++ (if v.password.isEmpty then "" else ":" ++ v.password)).toList, (c == '@') = false := by
    intro v name pass c mem
    simp only [String.toList_append, List.mem_append] at mem
    rcases mem with inName | inPass
    · exact stop_free (not_mem_of_credential name (by simp [delimiters])) c inName
    · split at inPass
      · simp at inPass
      · simp only [String.toList_append, List.mem_append] at inPass
        rcases inPass with colon | inPass
        · simp_all
        · exact stop_free (not_mem_of_credential pass (by simp [delimiters])) c inPass
  by_cases bare : (u.username.isEmpty && u.password.isEmpty) = true <;>
    by_cases bare' : (u'.username.isEmpty && u'.password.isEmpty) = true
  · simp only [Bool.and_eq_true, String.isEmpty_iff] at bare bare'
    simp only [userinfoText, bare, bare', String.isEmpty_iff, if_true] at same
    exact ⟨bare.1.trans bare'.1.symm, bare.2.trans bare'.2.symm, same⟩
  · exfalso
    rw [userinfoText_of_ne bare'] at same
    simp [userinfoText, bare] at same
    exact free (by simp [same])
  · exfalso
    rw [userinfoText_of_ne bare] at same
    simp [userinfoText, bare'] at same
    exact free' (by simp [← same])
  · rw [userinfoText_of_ne bare, userinfoText_of_ne bare', List.append_assoc, List.append_assoc,
      List.singleton_append, List.singleton_append] at same
    obtain ⟨both, rest⟩ := append_inj_of_stop (written name pass) (written name' pass') (by simp) (by simp) same
    simp only [String.toList_append] at both
    have noColon : ∀ {v : Url}, Credential v.username → ∀ c ∈ v.username.toList, (c == ':') = false :=
      fun name => stop_free (not_mem_of_credential name (by simp [delimiters]))
    have opens : ∀ (v : Url), ∀ c ∈ (if v.password.isEmpty then "" else ":" ++ v.password).toList.head?,
        (c == ':') = true := by
      intro v c mem
      split at mem
      · simp at mem
      · simp only [String.toList_append, List.head?_append, Option.mem_def] at mem
        simp [show ":".toList = [':'] from rfl] at mem
        simp [← mem]
    obtain ⟨names, passwords⟩ := append_inj_of_stop (noColon name) (noColon name') (opens u) (opens u') both
    exact ⟨String.toList_injective names, passwordText_inj (String.toList_injective passwords),
      by simpa using rest⟩

theorem digitChar_not_authorityEnd : ∀ d < 10, Nat.digitChar d ∉ ['/', '?', '#', '@'] := by decide

/-- No slash, question mark, hash or `@` stands in the text of a canonical host and a port. -/
theorem Host.Canonical.not_mem_serialize_portText {h : Host} (canon : h.Canonical) (u : Url) {c : Char}
    (ends : c ∈ ['/', '?', '#', '@']) : c ∉ (h.serialize ++ u.portText).toList := by
  rw [String.toList_append, List.mem_append]
  rintro (inHost | inPort)
  · rcases canon.mem_serialize inHost with allowed | other
    · simp only [List.mem_cons, List.not_mem_nil, or_false] at ends
      rcases ends with rfl | rfl | rfl | rfl <;> simp [forbiddenInDomain] at allowed
    · simp only [List.mem_cons, List.not_mem_nil, or_false] at ends other
      rcases ends with rfl | rfl | rfl | rfl <;> simp at other
  · rcases mem_portText inPort with rfl | ⟨d, small, rfl⟩
    · simp at ends
    · exact digitChar_not_authorityEnd d small ends

/-- The path of a hierarchical URL holds no question mark or hash, and starts with a slash
unless it is empty. -/
theorem Hierarchical.pathText_spec {u : Url} (hu : u.Hierarchical) :
    (∀ c ∈ u.pathText.toList, c ≠ '?' ∧ c ≠ '#') ∧ ∀ c ∈ u.pathText.toList.head?, c = '/' := by
  obtain ⟨items, path, segments⟩ := hu.path
  rw [pathText, path, toList_serialize_segments]
  constructor
  · intro c mem
    obtain ⟨s, listed, inside⟩ := List.mem_flatMap.mp mem
    rcases List.mem_cons.mp inside with rfl | inSegment
    · decide
    · have := segments s listed c inSegment
      simp only [segmentEnds, List.mem_cons, List.not_mem_nil, or_false, not_or] at this
      exact ⟨this.2.1, this.2.2⟩
  · intro c mem
    cases items with
    | nil => simp at mem
    | cons s items =>
      simp only [List.flatMap_cons, List.cons_append, List.head?_cons, Option.mem_def, Option.some.injEq] at mem
      exact mem.symm

/-- The authority of a hierarchical URL names its credentials, host and port. -/
theorem Hierarchical.authority_inj {u u' : Url} (hu : u.Hierarchical) (hu' : u'.Hierarchical) {h h' : Host}
    (host : u.host = some h) (host' : u'.host = some h') (canon : h.Canonical) (canon' : h'.Canonical)
    (same : u.userinfoText.toList ++ (h.serialize ++ u.portText).toList =
      u'.userinfoText.toList ++ (h'.serialize ++ u'.portText).toList) :
    u.username = u'.username ∧ u.password = u'.password ∧ u.host = u'.host ∧ u.port = u'.port := by
  obtain ⟨names, passwords, rest⟩ := userinfoText_append_inj hu.username hu.password hu'.username hu'.password
    (canon.not_mem_serialize_portText u (by simp)) (canon'.not_mem_serialize_portText u' (by simp)) same
  obtain ⟨hosts, ports⟩ := canon.serialize_portText_inj canon' rest
  exact ⟨names, passwords, by rw [host, host', hosts], ports⟩

theorem toList_serialize {u : Url} {h : Host} (host : u.host = some h) :
    u.serialize.toList = u.scheme.toList ++ ':' :: '/' :: '/' ::
      ((u.userinfoText.toList ++ (h.serialize ++ u.portText).toList) ++
        (u.pathText.toList ++ (u.queryText.toList ++ u.fragmentText.toList))) := by
  simp [serialize, host, List.append_assoc]

theorem queryFragment_head (u : Url) :
    ∀ c ∈ (u.queryText.toList ++ u.fragmentText.toList).head?, (c == '?' || c == '#') = true := by
  intro c mem
  rw [List.head?_append] at mem
  cases first : u.queryText.toList.head? with
  | some q =>
    rw [first] at mem
    cases mem
    simp [(by simpa using queryText_head u c first : c = '?')]
  | none =>
    rw [first, Option.none_or] at mem
    simp [fragmentText_head u c mem]

/-- What follows the authority of a hierarchical URL starts with a slash, a question mark or
a hash, if anything follows. -/
theorem Hierarchical.tail_head {u : Url} (hu : u.Hierarchical) :
    ∀ c ∈ (u.pathText.toList ++ (u.queryText.toList ++ u.fragmentText.toList)).head?,
      (c == '/' || c == '?' || c == '#') = true := by
  intro c mem
  rw [List.head?_append] at mem
  cases first : u.pathText.toList.head? with
  | some p =>
    rw [first] at mem
    cases mem
    simp [hu.pathText_spec.2 c first]
  | none =>
    rw [first, Option.none_or] at mem
    have := queryFragment_head u c mem
    simp only [Bool.or_eq_true, beq_iff_eq] at this ⊢
    rcases this with question | hash
    · exact .inl (.inr question)
    · exact .inr hash

/-- The path, the query and the fragment of a hierarchical URL are told by the text they make. -/
theorem Hierarchical.pathQueryFragment_inj {u u' : Url} (hu : u.Hierarchical) (hu' : u'.Hierarchical)
    (same : u.pathText.toList ++ (u.queryText.toList ++ u.fragmentText.toList) =
      u'.pathText.toList ++ (u'.queryText.toList ++ u'.fragmentText.toList)) :
    u.path = u'.path ∧ u.query = u'.query ∧ u.fragment = u'.fragment := by
  -- the path runs up to the first `?` or `#`, the query up to the first `#`
  have pathStop : ∀ {v : Url}, v.Hierarchical → ∀ c ∈ v.pathText.toList, (c == '?' || c == '#') = false := by
    intro v hv c mem
    have := hv.pathText_spec.1 c mem
    simp [this.1, this.2]
  have queryStop : ∀ {v : Url}, v.Hierarchical → ∀ c ∈ v.queryText.toList, (c == '#') = false := by
    intro v hv c mem
    unfold queryText at mem
    split at mem
    · rename_i q query
      simp only [String.toList_append, List.mem_append] at mem
      rcases mem with mark | inside
      · simp_all
      · exact stop_free (hv.query q query) c inside
    · simp at mem
  obtain ⟨paths, rest⟩ := append_inj_of_stop (pathStop hu) (pathStop hu') (queryFragment_head u) (queryFragment_head u') same
  obtain ⟨queries, fragments⟩ := append_inj_of_stop (queryStop hu) (queryStop hu') (fragmentText_head u) (fragmentText_head u') rest
  obtain ⟨items, path, segments⟩ := hu.path
  obtain ⟨items', path', segments'⟩ := hu'.path
  rw [pathText, pathText, path, path', toList_serialize_segments, toList_serialize_segments] at paths
  exact ⟨by rw [path, path', segments_inj_of_serialize segments segments' paths],
    queryText_inj (String.toList_injective queries), fragmentText_inj (String.toList_injective fragments)⟩

theorem mem_userinfoText {u : Url} {c : Char} (mem : c ∈ u.userinfoText.toList) :
    c ∈ u.username.toList ∨ c ∈ u.password.toList ∨ c = ':' ∨ c = '@' := by
  unfold userinfoText at mem
  split at mem
  · simp at mem
  · simp only [String.toList_append, List.mem_append] at mem
    rcases mem with (name | pass) | at_
    · exact .inl name
    · split at pass
      · simp at pass
      · simp only [String.toList_append, List.mem_append] at pass
        rcases pass with colon | pass
        · exact .inr (.inr (.inl (by simpa using colon)))
        · exact .inr (.inl pass)
    · exact .inr (.inr (.inr (by simpa using at_)))

theorem stop_delimiter : ∀ c ∈ ['/', '?', '#'], c ∈ delimiters := by
  intro c stop
  simp only [List.mem_cons, List.not_mem_nil, or_false] at stop
  rcases stop with rfl | rfl | rfl <;> simp [delimiters]

theorem stop_authorityEnd : ∀ c ∈ ['/', '?', '#'], c ∈ ['/', '?', '#', '@'] := by
  intro c stop
  simp only [List.mem_cons, List.not_mem_nil, or_false] at stop
  rcases stop with rfl | rfl | rfl <;> simp

/-- The authority of a hierarchical URL holds no slash, question mark or hash. -/
theorem Hierarchical.authority_stop {u : Url} (hu : u.Hierarchical) {h : Host} (canon : h.Canonical) :
    ∀ c ∈ u.userinfoText.toList ++ (h.serialize ++ u.portText).toList, (c == '/' || c == '?' || c == '#') = false := by
  intro c mem
  have ends : c ∉ ['/', '?', '#'] := by
    rcases List.mem_append.mp mem with inCredentials | inHost
    · rcases mem_userinfoText inCredentials with name | pass | rfl | rfl
      · exact fun stop => not_mem_of_credential hu.username (stop_delimiter c stop) name
      · exact fun stop => not_mem_of_credential hu.password (stop_delimiter c stop) pass
      · decide
      · decide
    · exact fun stop => canon.not_mem_serialize_portText u (stop_authorityEnd c stop) inHost
  simp only [List.mem_cons, List.not_mem_nil, or_false, not_or] at ends
  simp [ends.1, ends.2.1, ends.2.2]

/-- A hierarchical URL whose scheme holds no colon is told by its text. -/
theorem Hierarchical.serialize_inj {u u' : Url} (hu : u.Hierarchical) (hu' : u'.Hierarchical)
    (scheme : ':' ∉ u.scheme.toList) (scheme' : ':' ∉ u'.scheme.toList) (same : u.serialize = u'.serialize) :
    u = u' := by
  obtain ⟨h, host, canon⟩ := hu.host
  obtain ⟨h', host', canon'⟩ := hu'.host
  have chars := congrArg String.toList same
  rw [toList_serialize host, toList_serialize host'] at chars
  -- the scheme runs up to the first colon, the authority up to the first slash, `?` or `#`
  obtain ⟨schemes, rest⟩ := append_inj_of_stop (stop_free scheme) (stop_free scheme') (by simp) (by simp) chars
  simp only [List.cons.injEq, true_and] at rest
  obtain ⟨authority, tail⟩ := append_inj_of_stop (hu.authority_stop canon) (hu'.authority_stop canon')
    hu.tail_head hu'.tail_head rest
  obtain ⟨names, passwords, hosts, ports⟩ := hu.authority_inj hu' host host' canon canon' authority
  obtain ⟨paths, queries, fragments⟩ := hu.pathQueryFragment_inj hu' tail
  cases u
  cases u'
  simp only at schemes names passwords hosts ports paths queries fragments
  rw [String.toList_injective schemes, names, passwords, hosts, ports, paths, queries, fragments]

/-! ## Paths and queries -/

/-- Removing the query leaves a path of segments as it is. -/
theorem clearQuery_of_segments {u : Url} {items : List String} (path : u.path = .segments items) :
    u.clearQuery = { u with query := none } := by
  cases u
  simp only at path
  subst path
  rfl

theorem Hierarchical.clearQuery {u : Url} (hu : u.Hierarchical) : u.clearQuery.Hierarchical := by
  obtain ⟨items, path, segments⟩ := hu.path
  rw [clearQuery_of_segments path]
  exact ⟨hu.username, hu.password, hu.host, ⟨items, path, segments⟩, by simp⟩

/-- The path of a hierarchical URL is told by its text. -/
theorem Hierarchical.pathText_inj {u u' : Url} (hu : u.Hierarchical) (hu' : u'.Hierarchical)
    (same : u.pathText = u'.pathText) : u.path = u'.path := by
  obtain ⟨items, path, segments⟩ := hu.path
  obtain ⟨items', path', segments'⟩ := hu'.path
  have chars := congrArg String.toList same
  rw [pathText, pathText, path, path', toList_serialize_segments, toList_serialize_segments] at chars
  rw [path, path', segments_inj_of_serialize segments segments' chars]

/-- The path and the query of a hierarchical URL are told by the text they make. -/
theorem Hierarchical.pathText_queryText_inj {u u' : Url} (hu : u.Hierarchical) (hu' : u'.Hierarchical)
    (same : u.pathText ++ u.queryText = u'.pathText ++ u'.queryText) : u.path = u'.path ∧ u.query = u'.query := by
  have pathStop : ∀ {v : Url}, v.Hierarchical → ∀ c ∈ v.pathText.toList, (c == '?') = false := by
    intro v hv c mem
    simpa using (hv.pathText_spec.1 c mem).1
  have chars := congrArg String.toList same
  rw [String.toList_append, String.toList_append] at chars
  obtain ⟨paths, queries⟩ := append_inj_of_stop (pathStop hu) (pathStop hu') (queryText_head u) (queryText_head u') chars
  exact ⟨hu.pathText_inj hu' (String.toList_injective paths), queryText_inj (String.toList_injective queries)⟩

/-! ## What the cache key relies on -/

/-- What the cache key relies on of a URL reader, as the URL Standard documents it.  An absolute
URL read with the scheme `http` or `https` has a path of segments, and is told apart by its text
written back once its query is removed, by the text of its path and query, and by the text of
its path.  A reference that needs a base, read against a base with a special scheme other than
`file` and a path of segments, has a path of segments. -/
structure WebReading (read : String → Option Url → Except ParseError Url) : Prop where
  segments : ∀ {raw u}, read raw none = .ok u → (u.scheme = "http" ∨ u.scheme = "https") →
    ∃ items, u.path = .segments items
  clearQuery_inj : ∀ {raw raw' u u'}, read raw none = .ok u → read raw' none = .ok u' →
    (u.scheme = "http" ∨ u.scheme = "https") → (u'.scheme = "http" ∨ u'.scheme = "https") →
    u.clearQuery.serialize = u'.clearQuery.serialize → u.clearQuery = u'.clearQuery
  pathText_queryText_inj : ∀ {raw raw' u u'}, read raw none = .ok u → read raw' none = .ok u' →
    (u.scheme = "http" ∨ u.scheme = "https") → (u'.scheme = "http" ∨ u'.scheme = "https") →
    u.pathText ++ u.queryText = u'.pathText ++ u'.queryText → u.path = u'.path ∧ u.query = u'.query
  pathText_inj : ∀ {raw raw' u u'}, read raw none = .ok u → read raw' none = .ok u' →
    (u.scheme = "http" ∨ u.scheme = "https") → (u'.scheme = "http" ∨ u'.scheme = "https") →
    u.pathText = u'.pathText → u.path = u'.path
  based_segments : ∀ {raw}, read raw none = .error .relativeWithoutBase →
    ∀ {b : Url} {items : List String}, b.path = .segments items → isSpecial b.scheme = true →
      b.scheme ≠ "file" → ∀ {u}, read raw (some b) = .ok u → ∃ items', u.path = .segments items'

theorem colon_not_mem_web {scheme : String} (web : scheme = "http" ∨ scheme = "https") : ':' ∉ scheme.toList := by
  rcases web with rfl | rfl <;> decide

/-- The reader is such a reader: a web URL it reads is hierarchical, and hierarchical URLs are
told by their texts. -/
theorem parse_webReading : WebReading (fun raw base => parse raw base) where
  segments := fun read web => by
    obtain ⟨items, path, -⟩ := (parse_hierarchical read web).path
    exact ⟨items, path⟩
  clearQuery_inj := fun read read' web web' =>
    (parse_hierarchical read web).clearQuery.serialize_inj (parse_hierarchical read' web').clearQuery
      (colon_not_mem_web web) (colon_not_mem_web web')
  pathText_queryText_inj := fun read read' web web' =>
    (parse_hierarchical read web).pathText_queryText_inj (parse_hierarchical read' web')
  pathText_inj := fun read read' web web' => (parse_hierarchical read web).pathText_inj (parse_hierarchical read' web')
  based_segments := parse_based_segments

end ChunkProxy.Url
