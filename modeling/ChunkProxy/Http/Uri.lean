import ChunkProxy.Url.Percent
/-!
# Request targets

A request names its target as an origin form (`/path?query`), `*`, an absolute
URL (`scheme://authority/path?query`) or a bare authority.

* A target of one byte is `/`, `*` or an authority.
* A target that starts with `/` is a path and query.
* Otherwise a scheme is `http://` or `https://` in any case, or a run of
  letters, digits, `+`, `-` and `.` followed by `://`; a scheme longer than 64
  characters is refused.  An authority must follow it, and the path and query
  after the authority.  Without a scheme the whole target must be an authority.
* An authority ends at `/`, `?` or `#`.  It holds ASCII letters, digits and
  ``!$&'()*+,-.:;=@[]_~`` and `%`; at most one `:` may stand after the last `@`
  or `]` (at most eight anywhere), brackets must pair once, nothing may follow
  a final `@`, and a `%` is allowed only before the last `@` or inside brackets.
* The path runs up to `?` or `#`, the query from `?` up to `#`, and what
  follows `#` is dropped.  Each admits its own set of visible ASCII bytes and
  every non-ASCII one.  An absolute URL with no path has the path `/`.

Query strings are form-urlencoded: pairs separated by `&`, a name and a value
separated by the first `=`, `+` standing for a space, escapes decoded, and the
bytes read as UTF-8 with ill-formed parts replaced.
-/

namespace ChunkProxy.Http

set_option autoImplicit false

/-- A request target: its path and its query, if any. -/
structure Target where
  path : String
  query : Option String
  deriving DecidableEq, Repr

/-- Why a request target could not be read. -/
inductive UriError where
  | empty
  | tooLong
  | invalidChar
  | schemeTooLong
  | invalidAuthority
  | invalidFormat
  deriving DecidableEq, Repr

/-- The text of a target error. -/
def UriError.message : UriError → String
  | .empty => "empty string"
  | .tooLong => "uri too long"
  | .invalidChar => "invalid uri character"
  | .schemeTooLong => "scheme too long"
  | .invalidAuthority => "invalid authority"
  | .invalidFormat => "invalid format"

/-- The longest target, in bytes. -/
def maxTargetBytes : Nat := 65534

/-- The longest scheme. -/
def maxSchemeLength : Nat := 64

/-- Whether a character may stand in a path as it is. -/
def pathByte (c : Char) : Bool :=
  let n := c.toNat
  n == 0x21 || (0x24 ≤ n && n ≤ 0x3B) || n == 0x3D || (0x40 ≤ n && n ≤ 0x5F) ||
    (0x61 ≤ n && n ≤ 0x7A) || n == 0x7C || n == 0x7E || n ≥ 0x80 || c == '"' || c == '\x7b' || c == '\x7d'

/-- Whether a character may stand in a query as it is. -/
def queryByte (c : Char) : Bool :=
  let n := c.toNat
  n == 0x21 || (0x24 ≤ n && n ≤ 0x3B) || n == 0x3D || (0x3F ≤ n && n ≤ 0x7E) || n ≥ 0x80

/-- Whether a character may stand in an authority, besides `%`. -/
def authorityByte (c : Char) : Bool :=
  c.toNat < 0x80 && (c.isAlphanum || "!$&\x27()*+,-.:;=@[]_~".toList.contains c)

/-- Whether a character may stand in a scheme. -/
def schemeByte (c : Char) : Bool := c.toNat < 0x80 && (c.isAlphanum || c == '+' || c == '-' || c == '.')

/-- What is known of an authority while it is read: the colons since the last `@`
or `]`, whether `[` and `]` were seen, whether a `%` stands since the last `@` or
`]`, and whether the last character was `@`. -/
structure AuthorityScan where
  colons : Nat := 0
  opened : Bool := false
  closed : Bool := false
  percent : Bool := false
  atLast : Bool := false

/-- The most colons an authority may hold. -/
def maxColons : Nat := 8

/-- Takes one character of an authority. -/
def AuthorityScan.step (a : AuthorityScan) (c : Char) : Except UriError AuthorityScan :=
  let a := { a with atLast := false }
  if c == ':' then
    if a.colons ≥ maxColons then .error .invalidAuthority else .ok { a with colons := a.colons + 1 }
  else if c == '[' then
    if a.percent || a.opened then .error .invalidAuthority else .ok { a with opened := true }
  else if c == ']' then
    if !a.opened || a.closed then .error .invalidAuthority
    else .ok { a with closed := true, colons := 0, percent := false }
  else if c == '@' then .ok { a with colons := 0, percent := false, atLast := true }
  else if c == '%' then .ok { a with percent := true }
  else if authorityByte c then .ok a
  else .error .invalidChar

/-- Whether a character ends an authority. -/
def endsAuthority (c : Char) : Bool := c == '/' || c == '?' || c == '#'

/-- The length of the authority at the start of a text, which must not be empty. -/
def authorityLength (cs : List Char) : Except UriError Nat := do
  if cs.isEmpty then throw .empty
  let auth := cs.takeWhile (!endsAuthority ·)
  let a ← auth.foldlM AuthorityScan.step {}
  if a.opened != a.closed || a.colons > 1 || a.atLast || a.percent then throw .invalidAuthority
  pure auth.length

/-- Reads a path and query: the path up to `?` or `#`, the query from `?` up to
`#`; what follows `#` is dropped.  An empty path is `emptyPath`. -/
def readPathQuery (emptyPath : String) (cs : List Char) : Except UriError Target := do
  let path := cs.takeWhile fun c => c ≠ '?' ∧ c ≠ '#'
  if !path.all pathByte then throw .invalidChar
  let shown := if path.isEmpty then emptyPath else String.ofList path
  match cs.drop path.length with
  | '?' :: q =>
    let q := q.takeWhile (· ≠ '#')
    if !q.all queryByte then throw .invalidChar
    pure { path := shown, query := some (String.ofList q) }
  | _ => pure { path := shown, query := none }

/-- Splits off a scheme and its `://`: none when the target has no scheme. -/
def splitTargetScheme (cs : List Char) (bytes : Nat) : Except UriError (Option (List Char)) :=
  let lower := cs.map Char.toLower
  if lower.take 7 == "http://".toList then .ok (some (cs.drop 7))
  else if lower.take 8 == "https://".toList then .ok (some (cs.drop 8))
  else if bytes > 3 then
    let scheme := cs.takeWhile schemeByte
    match cs.drop scheme.length with
    | ':' :: '/' :: '/' :: rest =>
      if scheme.length > maxSchemeLength then .error .schemeTooLong else .ok (some rest)
    | _ => .ok none
  else .ok none

/-- Reads a request target. -/
def Target.parse (uri : String) : Except UriError Target := do
  let cs := uri.toList
  let bytes := uri.utf8ByteSize
  if bytes > maxTargetBytes then throw .tooLong
  match cs with
  | [] => throw .empty
  | ['/'] => pure { path := "/", query := none }
  | ['*'] => pure { path := "*", query := none }
  | '/' :: _ => readPathQuery "/" cs
  | _ =>
    if bytes == 1 then
      if (← authorityLength cs) != cs.length then throw .invalidChar
      pure { path := "", query := none }
    else
      match ← splitTargetScheme cs bytes with
      | none =>
        if (← authorityLength cs) != cs.length then throw .invalidFormat
        pure { path := "", query := none }
      | some rest =>
        let n ← authorityLength rest
        if n == 0 then throw .invalidFormat
        readPathQuery "/" (rest.drop n)

/-- Decodes one name or value of a form: `+` is a space, then escapes are decoded. -/
def formDecode (s : String) : String :=
  Utf8.decodeLossy (Url.decodeBytes ((Utf8.encode s).map fun b => if b == 0x2B then 0x20 else b))

/-- The pairs of a form-urlencoded query, in order. -/
def formPairs (query : String) : List (String × String) :=
  ((query.splitOn "&").filter (!·.isEmpty)).map fun part =>
    let cs := part.toList
    let name := String.ofList (cs.takeWhile (· ≠ '='))
    let value := String.ofList ((cs.dropWhile (· ≠ '=')).drop 1)
    (formDecode name, formDecode value)

/-- The value of the first pair with a name. -/
def Target.param (t : Target) (name : String) : Option String :=
  t.query.bind fun q => (formPairs q).lookup name

end ChunkProxy.Http
