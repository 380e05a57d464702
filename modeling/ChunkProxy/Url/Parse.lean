import ChunkProxy.Url.Host
/-!
# Reading URLs

`Url.parse` reads a URL against an optional base, following the URL
standard's rules as the widely used parser applies them:

* the input loses its leading and trailing C0 controls and spaces, and every
  tab and newline in it;
* a scheme is an ASCII letter followed by letters, digits, `+`, `-` or `.`
  and then `:`; without one the input is a reference relative to the base;
* in a special URL a backslash is a slash, the authority follows any number of
  slashes, and the path always has at least one segment;
* path segments `.` and `..` (also written with `%2e`) are resolved as they are
  read, and components are percent-encoded with their own sets;
* a reference that starts with exactly two slashes reads its authority from
  the third character on, so `///x` has an empty host.

Failures carry a `ParseError`; only `relativeWithoutBase` says that the text
might still be read against a base.
-/

namespace ChunkProxy.Url

set_option autoImplicit false

/-- The input with C0 controls and spaces trimmed and tabs and newlines removed. -/
def clean (s : String) : List Char :=
  let edge (c : Char) : Bool := c.toNat ≤ 0x20
  let cs := ((s.toList.dropWhile edge).reverse.dropWhile edge).reverse
  cs.filter fun c => c ≠ '\t' ∧ c ≠ '\n' ∧ c ≠ '\r'

/-- A character allowed in a scheme after its first letter. -/
def isSchemeChar (c : Char) : Bool := c.isAlphanum || c == '+' || c == '-' || c == '.'

/-- Splits off a scheme, lowercased, and the text after its colon. -/
def splitScheme (cs : List Char) : Option (String × List Char) :=
  match cs with
  | c :: _ =>
    if c.isAlpha then
      match cs.dropWhile isSchemeChar with
      | ':' :: rest => some (String.ofList ((cs.takeWhile isSchemeChar).map Char.toLower), rest)
      | _ => none
    else none
  | [] => none

/-- A path separator: `/`, and in a special URL also `\`. -/
def isSlash (special : Bool) (c : Char) : Bool := c == '/' || (special && c == '\\')

/-- A segment that means the current directory. -/
def isSingleDot (seg : String) : Bool := seg == "." || seg.toLower == "%2e"

/-- A segment that means the parent directory. -/
def isDoubleDot (seg : String) : Bool :=
  let l := seg.toLower
  l == ".." || l == ".%2e" || l == "%2e." || l == "%2e%2e"

/-- A drive letter such as `C:` or `C|`. -/
def isDriveLetter (seg : String) : Bool :=
  match seg.toList with
  | [a, b] => a.isAlpha && (b == ':' || b == '|')
  | _ => false

/-- A drive letter written with a colon. -/
def isNormalizedDriveLetter (seg : String) : Bool :=
  match seg.toList with
  | [a, b] => a.isAlpha && b == ':'
  | _ => false

/-- The parent of a path, as a `..` segment leaves it: the last segment goes,
unless it is a drive letter, which stays in any URL. -/
def parentPath (segs : List String) : List String :=
  match segs.getLast? with
  | some last => if isDriveLetter last then segs else segs.dropLast
  | none => []

/-- A base path without its last segment, except a lone drive letter of a file URL. -/
def dropLastSegment (file : Bool) (segs : List String) : List String :=
  match segs.getLast? with
  | some last => if file && isNormalizedDriveLetter last then segs else segs.dropLast
  | none => []

/-- Whether a character ends a path segment. -/
def endsSegment (special : Bool) (c : Char) : Bool := isSlash special c || c == '?' || c == '#'

theorem length_dropWhile_le (p : Char → Bool) (cs : List Char) :
    (cs.dropWhile p).length ≤ cs.length := by
  induction cs with
  | nil => simp
  | cons c rest ih =>
    simp only [List.length_cons, List.dropWhile_cons]
    split
    · omega
    · simp

/-- The first segment of a file path splits after a drive letter written with a
colon: `C:x` reads as `C:` and `x`. -/
def splitDrive (file : Bool) (segs : List String) (raw : List Char) : List String × List Char :=
  match raw with
  | a :: ':' :: b :: more =>
    if file && segs.isEmpty && a.isAlpha then (segs ++ [String.ofList [a, ':']], b :: more) else (segs, raw)
  | _ => (segs, raw)

/-- A path as read: its segments, the rest of the input (empty or starting with
`?` or `#`), and whether a drive letter was found as its first segment, which
takes the host away from a file URL. -/
structure PathRead where
  segs : List String
  rest : List Char
  drive : Bool

/-- Puts one segment, its raw text, onto `segs`: `..` climbs, `.` stays, and a drive letter
first in a file path is written with a colon.  Either dot segment leaves an empty segment
behind when no slash follows it. -/
def appendSegment (file : Bool) (segs : List String) (drive : Bool) (raw : List Char) (slashNext : Bool) :
    List String × Bool :=
  let (segs, raw) := splitDrive file segs raw
  let buffer := encodeChars pathSet raw
  if isDoubleDot buffer then
    let popped := parentPath segs
    (if slashNext then popped else popped ++ [""], drive)
  else if isSingleDot buffer then
    (if slashNext then segs else segs ++ [""], drive)
  else if file && segs.isEmpty && isDriveLetter buffer then
    (segs ++ [String.ofList (buffer.toList.take 1 ++ [':'])], true)
  else (segs ++ [buffer], drive)

/-- Reads path segments onto `segs`, resolving dot segments. -/
def readSegments (special file : Bool) (segs : List String) (drive : Bool) (cs : List Char) : PathRead :=
  let rest := cs.dropWhile fun c => !endsSegment special c
  let slashNext :=
    match rest with
    | c :: _ => isSlash special c
    | [] => false
  let (segs, drive) := appendSegment file segs drive (cs.takeWhile fun c => !endsSegment special c) slashNext
  match h : rest with
  | c :: more =>
    if isSlash special c then
      have : rest.length ≤ cs.length := length_dropWhile_le _ cs
      have : more.length < rest.length := by rw [h]; simp
      readSegments special file segs drive more
    else { segs, rest := c :: more, drive }
  | [] => { segs, rest := [], drive }
termination_by cs.length

/-- Leading empty segments of a file URL go, all but the last one. -/
def trimFileSegments : List String → List String
  | "" :: s :: rest => trimFileSegments (s :: rest)
  | segs => segs

/-- Reads a path after its start: special paths and `file` paths get their final form. -/
def readPath (special file : Bool) (segs : List String) (cs : List Char) : PathRead :=
  let r := readSegments special file segs false cs
  { r with segs := if file then trimFileSegments r.segs else r.segs }

/-- Reads the query and the fragment from a rest that is empty or starts with `?` or `#`. -/
def readQueryFragment (special : Bool) (cs : List Char) : Option String × Option String :=
  let qset := if special then specialQuerySet else querySet
  match cs with
  | '?' :: more =>
    let q := more.takeWhile (· ≠ '#')
    let frag :=
      match more.dropWhile (· ≠ '#') with
      | _ :: f => some (encodeChars fragmentSet f)
      | [] => none
    (some (encodeChars qset q), frag)
  | '#' :: f => (none, some (encodeChars fragmentSet f))
  | _ => (none, none)

/-- The credentials of an authority: user name and password, percent-encoded. -/
def readCredentials (userinfo : List Char) : String × String :=
  let name := userinfo.takeWhile (· ≠ ':')
  let password := (userinfo.dropWhile (· ≠ ':')).drop 1
  (encodeChars userinfoSet name, encodeChars userinfoSet password)

/-- Splits a host and port text at the first colon outside brackets. -/
def splitHostPort : Bool → List Char → List Char × Option (List Char)
  | _, [] => ([], none)
  | inside, c :: rest =>
    if c == ':' && !inside then ([], some rest)
    else
      let inside := if c == '[' then true else if c == ']' then false else inside
      let (h, p) := splitHostPort inside rest
      (c :: h, p)

/-- Reads a port: decimal digits up to 65535; no digits or the scheme's default port
mean no port. -/
def readPort (scheme : String) (cs : List Char) : Except ParseError (Option Nat) :=
  if !cs.all Char.isDigit then .error .invalidPort
  else
    match cs.foldlM (fun acc c =>
        let v := acc * 10 + (c.toNat - '0'.toNat)
        if v > 65535 then none else some v) 0 with
    | none => .error .invalidPort
    | some v =>
      if cs.isEmpty || defaultPort scheme == some v then .ok none else .ok (some v)

/-- The position of the last `@` in a list, if any. -/
def lastAt (cs : List Char) : Option Nat :=
  (cs.zipIdx.filter (·.1 == '@')).getLast?.map (·.2)

/-- Splits the credentials off an authority at its last `@`.  A lone `@` before a path
leaves no host. -/
def splitCredentials (auth : List Char) (pathFollows : Bool) :
    Except ParseError ((String × String) × List Char) :=
  match lastAt auth with
  | none => .ok (("", ""), auth)
  | some 0 =>
    if auth.length == 1 && pathFollows then .error .emptyHost
    else .ok (("", ""), auth.drop 1)
  | some i => .ok (readCredentials (auth.take i), auth.drop (i + 1))

/-- Reads the host and the port of an authority.  An empty host is refused in a special URL,
and in any URL that gives it a port or credentials. -/
def readHostPort (scheme : String) (credentials : String × String) (hostPort : List Char) :
    Except ParseError (Host × Option Nat) := do
  let special := isSpecial scheme
  let (hostText, portText) := splitHostPort false hostPort
  if special && hostText.isEmpty then throw .emptyHost
  let host ← if special then parseSpecialHost hostText else parseOpaqueHost hostText
  if host == .domain "" && (portText.isSome || !(credentials.1.isEmpty && credentials.2.isEmpty))
  then throw .emptyHost
  let port ←
    match portText with
    | some p => readPort scheme p
    | none => pure none
  pure (host, port)

/-- Reads the path, the query and the fragment after an authority. -/
def readAfterAuthority (special : Bool) (rest : List Char) :
    List String × Option String × Option String :=
  let (segs, rest) :=
    if special then
      let r := readPath true false [] (match rest with
        | c :: more => if isSlash true c then more else rest
        | [] => [])
      (r.segs, r.rest)
    else
      match rest with
      | '/' :: more =>
        let r := readPath false false [] more
        (r.segs, r.rest)
      | _ => ([], rest)
  let (query, fragment) := readQueryFragment special rest
  (segs, query, fragment)

/-- Reads an authority, the path after it, the query and the fragment. -/
def readAuthority (scheme : String) (cs : List Char) : Except ParseError Url := do
  let special := isSpecial scheme
  let endsAuthority (c : Char) : Bool := c == '/' || c == '?' || c == '#' || (special && c == '\\')
  let auth := cs.takeWhile fun c => !endsAuthority c
  let rest := cs.dropWhile fun c => !endsAuthority c
  let (credentials, hostPort) ← splitCredentials auth !rest.isEmpty
  let (host, port) ← readHostPort scheme credentials hostPort
  let (segs, query, fragment) := readAfterAuthority special rest
  pure { scheme := scheme, username := credentials.1, password := credentials.2, host := some host,
         port := port, path := .segments segs, query := query, fragment := fragment }

/-- Reads the host and the path of what follows `file:`.  After two slashes comes a host: a
drive letter there starts the path instead, and an empty host or `localhost` leaves the
slash after it as an empty first segment.  A path whose first segment is a drive letter has
no host.  After a single slash the path starts at once. -/
def readFileHostPath (cs : List Char) : Except ParseError (String × PathRead) :=
  let slash (c : Char) : Bool := c == '/' || c == '\\'
  match cs with
  | a :: b :: more =>
    if slash a && slash b then
      let hostRaw := more.takeWhile fun c => !(slash c || c == '?' || c == '#')
      let afterHost := more.dropWhile fun c => !(slash c || c == '?' || c == '#')
      if isDriveLetter (String.ofList hostRaw) then pure ("", readPath true true [] more)
      else if hostRaw.isEmpty then pure ("", readPath true true [] afterHost)
      else do
        let host ← parseSpecialHost hostRaw
        if host == .domain "localhost" then pure ("", readPath true true [] afterHost)
        else
          let r := readPath true true []
            (match afterHost with
             | c :: more => if slash c then more else afterHost
             | [] => [])
          pure (if r.drive then "" else host.serialize, r)
    else if slash a then pure ("", readPath true true [] (b :: more))
    else pure ("", readPath true true [] cs)
  | [a] => pure ("", readPath true true [] (if slash a then [] else cs))
  | [] => pure ("", readPath true true [] cs)

/-- Reads what follows `file:`: a host, a path, the query and the fragment. -/
def readFile (cs : List Char) : Except ParseError Url := do
  let (host, r) ← readFileHostPath cs
  let (query, fragment) := readQueryFragment true r.rest
  pure { scheme := "file", host := some (.domain host), path := .segments r.segs,
         query := query, fragment := fragment }

/-- Reads a reference against a base with a special scheme and a host. -/
def readRelative (b : Url) (cs : List Char) : Except ParseError Url :=
  let special := isSpecial b.scheme
  let baseSegs :=
    match b.path with
    | .segments s => s
    | .flat _ => []
  match cs with
  | [] => .ok { b with fragment := none }
  | '?' :: _ =>
    let (query, fragment) := readQueryFragment special cs
    .ok { b with query := query, fragment := fragment }
  | '#' :: f => .ok { b with fragment := some (encodeChars fragmentSet f) }
  | c :: more =>
    if isSlash special c then
      let slashes := (cs.takeWhile (isSlash special)).length
      if slashes ≥ 2 then
        let after :=
          match cs with
          | '/' :: '/' :: rest => rest
          | _ => cs.dropWhile (isSlash special)
        readAuthority b.scheme after
      else
        let r := readPath special false [] more
        let (query, fragment) := readQueryFragment special r.rest
        .ok { b with path := .segments r.segs, query := query, fragment := fragment }
    else
      let r := readPath special false (dropLastSegment false baseSegs) cs
      let (query, fragment) := readQueryFragment special r.rest
      .ok { b with path := .segments r.segs, query := query, fragment := fragment }

/-- Reads what follows the scheme of a URL. -/
def readAfterScheme (base : Option Url) (scheme : String) (cs : List Char) :
    Except ParseError Url :=
  if scheme == "file" then readFile cs
  else if isSpecial scheme then
    let slashes := (cs.takeWhile (isSlash true)).length
    match base with
    | some b =>
      if slashes < 2 && b.scheme == scheme then readRelative b cs
      else readAuthority scheme (cs.dropWhile (isSlash true))
    | none => readAuthority scheme (cs.dropWhile (isSlash true))
  else
    match cs with
    | '/' :: '/' :: rest => readAuthority scheme rest
    | '/' :: rest =>
      let r := readPath false false [] rest
      let (query, fragment) := readQueryFragment false r.rest
      .ok { scheme := scheme, path := .segments r.segs, query := query, fragment := fragment }
    | _ =>
      let flatText := cs.takeWhile fun c => c ≠ '?' ∧ c ≠ '#'
      let rest := cs.dropWhile fun c => c ≠ '?' ∧ c ≠ '#'
      let (query, fragment) := readQueryFragment false rest
      .ok { scheme := scheme, path := .flat (encodeChars controls flatText), query := query,
            fragment := fragment }

/-- Reads a URL, against a base when one is given. -/
def parse (input : String) (base : Option Url := none) : Except ParseError Url :=
  let cs := clean input
  match splitScheme cs with
  | some (scheme, rest) => readAfterScheme base scheme rest
  | none =>
    match base with
    | none => .error .relativeWithoutBase
    | some b =>
      match cs with
      | '#' :: f => .ok { b with fragment := some (encodeChars fragmentSet f) }
      | _ =>
        if b.cannotBeABase then .error .relativeWithOpaqueBase
        else if b.scheme == "file" then readFile cs
        else readRelative b cs

end ChunkProxy.Url
