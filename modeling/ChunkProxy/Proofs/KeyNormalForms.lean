import ChunkProxy.Proofs.UrlText
import ChunkProxy.Key.Normalize
/-!
# Normal forms of web URLs

Of an absolute `http` or `https` URL, normalisation keeps the path always, the query unless
the query is dropped, and the scheme, the credentials, the host, the port and the fragment
unless the origin is dropped (`Kept`).  With either switch on, two such URLs have the same
normal form exactly when they agree on what is kept (`normalize_eq_iff_kept`): the normal form
is the URL written back or its path and query, and a web URL is told by that text
(`Url.WebReading`, what the URL Standard documents of the reader).
Cache keys are the digests of the normal forms, so they agree whenever the URLs agree on what
is kept.
-/

namespace ChunkProxy.Key

set_option autoImplicit false

open Url

/-- The normal form of an absolute URL: with the origin dropped, its path and query (the
query gone when it is dropped); otherwise the whole URL written back, without its query when
that is dropped. -/
theorem normalize_of_parse {raw : String} {u : Url} (read : Url.parse raw = .ok u) {dropQuery dropOrigin : Bool}
    (strips : dropQuery = true ∨ dropOrigin = true) :
    normalize raw dropQuery dropOrigin =
      if dropOrigin then (if dropQuery then u.clearQuery else u).pathText ++ (if dropQuery then u.clearQuery else u).queryText
      else (if dropQuery then u.clearQuery else u).serialize := by
  have target : readTarget raw = some (u, false) := by
    unfold readTarget
    rw [read]
  unfold normalize
  rw [if_neg (by rcases strips with dropped | dropped <;> simp [dropped]), target]
  cases dropOrigin <;> simp

/-- Two URLs agree on every component that normalisation keeps: the path always, the query
unless it is dropped, and the scheme, the credentials, the host, the port and the fragment
unless the origin is dropped. -/
structure Kept (dropQuery dropOrigin : Bool) (u u' : Url) : Prop where
  path : u.path = u'.path
  query : dropQuery = false → u.query = u'.query
  scheme : dropOrigin = false → u.scheme = u'.scheme
  username : dropOrigin = false → u.username = u'.username
  password : dropOrigin = false → u.password = u'.password
  host : dropOrigin = false → u.host = u'.host
  port : dropOrigin = false → u.port = u'.port
  fragment : dropOrigin = false → u.fragment = u'.fragment

/-- Keeping all but the query is agreeing once the queries are gone. -/
theorem kept_iff_clear {u u' : Url} : Kept true false u u' ↔ { u with query := none } = { u' with query := none } := by
  constructor
  · rintro ⟨path, -, scheme, username, password, host, port, fragment⟩
    cases u
    cases u'
    simp_all
  · intro same
    cases u
    cases u'
    simp only [Url.mk.injEq, true_and] at same
    obtain ⟨scheme, username, password, host, port, path, fragment⟩ := same
    exact ⟨path, nofun, fun _ => scheme, fun _ => username, fun _ => password, fun _ => host, fun _ => port,
      fun _ => fragment⟩

/-- Without the origin, what is kept is the path and, unless it is dropped, the query. -/
theorem kept_iff_path {dropQuery : Bool} {u u' : Url} :
    Kept dropQuery true u u' ↔ u.path = u'.path ∧ (dropQuery = false → u.query = u'.query) := by
  constructor
  · rintro ⟨path, query, -⟩
    exact ⟨path, query⟩
  · rintro ⟨path, query⟩
    exact ⟨path, query, nofun, nofun, nofun, nofun, nofun, nofun⟩

/-- Normal forms of absolute web URLs are equal exactly when the URLs agree on every component
the switches keep, so the cache key is shared by mirrors and tokens that differ only in what is
dropped; with both switches off the text is its own normal form. -/
theorem normalize_eq_iff_kept {raw raw' : String} {u u' : Url} (read : Url.parse raw = .ok u)
    (read' : Url.parse raw' = .ok u') (web : u.scheme = "http" ∨ u.scheme = "https")
    (web' : u'.scheme = "http" ∨ u'.scheme = "https") {dropQuery dropOrigin : Bool}
    (strips : dropQuery = true ∨ dropOrigin = true) :
    (normalize raw dropQuery dropOrigin = normalize raw' dropQuery dropOrigin ↔ Kept dropQuery dropOrigin u u') ∧
      (Kept dropQuery dropOrigin u u' → compute raw dropQuery dropOrigin = compute raw' dropQuery dropOrigin) ∧
      ∀ text, normalize text false false = text := by
  have reading := parse_webReading
  obtain ⟨items, path⟩ := reading.segments read web
  obtain ⟨items', path'⟩ := reading.segments read' web'
  suffices normal : normalize raw dropQuery dropOrigin = normalize raw' dropQuery dropOrigin ↔ Kept dropQuery dropOrigin u u' from
    ⟨normal, fun kept => congrArg digest (normal.mpr kept), normalize_keep⟩
  rw [normalize_of_parse read strips, normalize_of_parse read' strips]
  cases dropOrigin with
  | false =>
    -- the whole URL is written back without its query
    obtain rfl : dropQuery = true := by simpa using strips
    simp only [if_true, Bool.false_eq_true, if_false]
    rw [kept_iff_clear, ← clearQuery_of_segments path, ← clearQuery_of_segments path']
    exact ⟨reading.clearQuery_inj read read' web web', congrArg Url.serialize⟩
  | true =>
    rw [kept_iff_path]
    cases dropQuery with
    | false =>
      -- the path and the query
      simp only [if_true, Bool.false_eq_true, if_false, forall_const]
      exact ⟨reading.pathText_queryText_inj read read' web web',
        fun ⟨paths, queries⟩ => by rw [pathText, pathText, paths, queryText, queryText, queries]⟩
    | true =>
      -- the path alone
      simp only [if_true, clearQuery_of_segments path, clearQuery_of_segments path', Bool.true_eq_false,
        false_implies, and_true]
      exact ⟨fun same => reading.pathText_inj read read' web web' (by simpa [pathText, queryText] using same),
        fun paths => by simp [pathText, queryText, paths]⟩

theorem eq_ok_of_toOption {ε α : Type} {x : Except ε α} {a : α} (read : x.toOption = some a) : x = .ok a := by
  cases x with
  | error e => cases read
  | ok b =>
    cases read
    rfl

/-- The loopback address, asked for `/a` with the query `q=1`. -/
def loopbackFirst : Url :=
  { scheme := "http", host := some (.ipv6 [0, 0, 0, 0, 0, 0, 0, 1]), path := .segments ["a"], query := some "q=1" }

/-- The loopback address, asked for `/a` with the query `q=2`. -/
def loopbackSecond : Url :=
  { loopbackFirst with query := some "q=2" }

theorem loopback_queries_dropped :
    Url.parse "http://[::1]/a?q=1" = .ok loopbackFirst ∧ Url.parse "http://[::1]/a?q=2" = .ok loopbackSecond ∧
      (loopbackFirst.scheme = "http" ∨ loopbackFirst.scheme = "https") ∧
      (loopbackSecond.scheme = "http" ∨ loopbackSecond.scheme = "https") ∧ (true = true ∨ false = true) ∧
      (normalize "http://[::1]/a?q=1" true false = normalize "http://[::1]/a?q=2" true false ↔
          Kept true false loopbackFirst loopbackSecond) ∧
        (Kept true false loopbackFirst loopbackSecond →
          compute "http://[::1]/a?q=1" true false = compute "http://[::1]/a?q=2" true false) ∧
        ∀ text, normalize text false false = text :=
  have first : Url.parse "http://[::1]/a?q=1" = .ok loopbackFirst := eq_ok_of_toOption (by decide +kernel)
  have second : Url.parse "http://[::1]/a?q=2" = .ok loopbackSecond := eq_ok_of_toOption (by decide +kernel)
  ⟨first, second, .inl rfl, .inl rfl, .inl rfl,
    normalize_eq_iff_kept first second (.inl rfl) (.inl rfl) (.inl rfl)⟩

end ChunkProxy.Key
