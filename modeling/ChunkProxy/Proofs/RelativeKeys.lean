import ChunkProxy.Proofs.KeyNormalForms
/-!
# Keys of relative references

A target without a scheme is read against a placeholder base (`Key.placeholderBase`) and keeps
its relative form.  Read against a base with a special scheme and a path of segments, a
reference gets a path of segments (`Url.WebReading.based_segments`), so dropping its query leaves its
path alone.  The normal form is then `relativeForm`: the reading's path, its first character
dropped unless the text itself starts with `/`, then the query and the fragment as the switches
keep them.

Nothing else of the reading is kept (`relativeForm_congr`).  The placeholder's host never shows;
neither does the authority of a network-path reference, so `//[::1]/p` and `//[::2]/p` share a
key (`network_paths_share_key`).  The leading slash is decided by the text as written: a
reference whose text starts with blanks before its `/` loses that slash.
-/

namespace ChunkProxy.Key

set_option autoImplicit false

open Url

/-- A relative reference is read with a path of segments. -/
theorem readTarget_relative_segments {raw : String} {u : Url} (read : readTarget raw = some (u, true)) :
    ∃ items, u.path = .segments items := by
  unfold readTarget at read
  split at read
  · cases read
  · rename_i unread
    split at read
    · rename_i based
      cases read
      exact parse_webReading.based_segments unread rfl rfl (by decide) based
    · cases read
  · cases read

/-- The normal form of a relative reference: the path of its reading, without its first
character unless the text starts with `/`, then the query unless it is dropped, then the
fragment unless the origin is dropped. -/
def relativeForm (raw : String) (u : Url) (dropQuery dropOrigin : Bool) : String :=
  (if raw.startsWith "/" then u.pathText else String.ofList (u.pathText.toList.drop 1)) ++
    (if dropQuery then "" else u.queryText) ++ (if dropOrigin then "" else u.fragmentText)

/-- Dropping the query of a URL with a path of segments leaves its path and fragment. -/
theorem texts_of_cleared {u : Url} {items : List String} (path : u.path = .segments items) (dropQuery : Bool) :
    (if dropQuery then u.clearQuery else u).pathText = u.pathText ∧
      (if dropQuery then u.clearQuery else u).queryText = (if dropQuery then "" else u.queryText) ∧
      (if dropQuery then u.clearQuery else u).fragmentText = u.fragmentText := by
  cases dropQuery with
  | false => exact ⟨rfl, rfl, rfl⟩
  | true =>
    rw [if_pos rfl, if_pos rfl, clearQuery_of_segments path]
    exact ⟨rfl, rfl, rfl⟩

theorem normalize_relative {raw : String} {u : Url} (read : readTarget raw = some (u, true))
    {dropQuery dropOrigin : Bool} (strips : dropQuery = true ∨ dropOrigin = true) :
    normalize raw dropQuery dropOrigin = relativeForm raw u dropQuery dropOrigin := by
  obtain ⟨items, path⟩ := readTarget_relative_segments read
  obtain ⟨samePath, query, sameFragment⟩ := texts_of_cleared path dropQuery
  unfold normalize relativeForm
  rw [if_neg (by rcases strips with dropped | dropped <;> simp [dropped]), read]
  simp only [Bool.or_true, if_true, Bool.true_and, samePath, query, sameFragment]
  cases raw.startsWith "/" <;> rfl

/-- Relative forms read nothing of a URL but its path, its query unless it is dropped and its
fragment unless the origin is dropped, and of the text only whether it starts with `/`. -/
theorem relativeForm_congr {raw raw' : String} {u u' : Url} (slash : raw'.startsWith "/" = raw.startsWith "/")
    (path : u'.path = u.path) {dropQuery dropOrigin : Bool} (query : dropQuery = false → u'.query = u.query)
    (fragment : dropOrigin = false → u'.fragment = u.fragment) :
    relativeForm raw' u' dropQuery dropOrigin = relativeForm raw u dropQuery dropOrigin := by
  have sameQuery : (if dropQuery then "" else u'.queryText) = if dropQuery then "" else u.queryText := by
    cases dropQuery with
    | false => simp only [Bool.false_eq_true, if_false, Url.queryText, query rfl]
    | true => rfl
  have sameFragment : (if dropOrigin then "" else u'.fragmentText) = if dropOrigin then "" else u.fragmentText := by
    cases dropOrigin with
    | false => simp only [Bool.false_eq_true, if_false, Url.fragmentText, fragment rfl]
    | true => rfl
  unfold relativeForm
  rw [slash, sameQuery, sameFragment, Url.pathText, Url.pathText, path]

/-- The key of a relative reference (one that is read only against the placeholder base), with
either switch on.  Its normal form is its reading's path, without the first character unless
the text starts with `/`, then the query unless it is dropped, then the fragment unless the
origin is dropped.  Nothing else of the reading is kept: the placeholder's host never shows,
and neither does the authority of a network-path reference such as `//host/p`, so relative
references that agree on the kept parts share their key whatever hosts they name. -/
theorem relative_reference_keys {raw : String} {u : Url} (read : readTarget raw = some (u, true))
    {dropQuery dropOrigin : Bool} (strips : dropQuery = true ∨ dropOrigin = true) :
    normalize raw dropQuery dropOrigin = relativeForm raw u dropQuery dropOrigin ∧
      ∀ {raw' : String} {u' : Url}, readTarget raw' = some (u', true) →
        raw'.startsWith "/" = raw.startsWith "/" → u'.path = u.path →
        (dropQuery = false → u'.query = u.query) → (dropOrigin = false → u'.fragment = u.fragment) →
        compute raw' dropQuery dropOrigin = compute raw dropQuery dropOrigin := by
  refine ⟨normalize_relative read strips, fun read' slash path query fragment => ?_⟩
  unfold compute
  rw [normalize_relative read strips, normalize_relative read' strips, relativeForm_congr slash path query fragment]

/-- The loopback address asked for `/p`, as the network-path reference `//[::1]/p` reads. -/
def loopbackPath : Url :=
  { scheme := "http", host := some (.ipv6 [0, 0, 0, 0, 0, 0, 0, 1]), path := .segments ["p"] }

theorem loopback_network_path_key :
    readTarget "//[::1]/p" = some (loopbackPath, true) ∧ (true = true ∨ false = true) ∧
      (normalize "//[::1]/p" true false = relativeForm "//[::1]/p" loopbackPath true false ∧
        ∀ {raw' : String} {u' : Url}, readTarget raw' = some (u', true) →
          raw'.startsWith "/" = "//[::1]/p".startsWith "/" → u'.path = loopbackPath.path →
          (true = false → u'.query = loopbackPath.query) → (false = false → u'.fragment = loopbackPath.fragment) →
          compute raw' true false = compute "//[::1]/p" true false) :=
  have read : readTarget "//[::1]/p" = some (loopbackPath, true) := by decide +kernel
  ⟨read, .inl rfl, relative_reference_keys read (.inl rfl)⟩

/-- Two network-path references naming different hosts share their key once the query is
dropped: the authority is not kept. -/
theorem network_paths_share_key :
    (readTarget "//[::1]/p").map (·.1.host) ≠ (readTarget "//[::2]/p").map (·.1.host) ∧
      compute "//[::1]/p" true false = compute "//[::2]/p" true false := by
  have first : normalize "//[::1]/p" true false = "/p" := by decide +kernel
  have second : normalize "//[::2]/p" true false = "/p" := by decide +kernel
  refine ⟨by decide +kernel, ?_⟩
  rw [compute, compute, first, second]

end ChunkProxy.Key
