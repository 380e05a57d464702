import ChunkProxy.Text.Decimal
/-!
# URLs: the record and its text

A URL is a scheme, optional credentials, an optional host with an optional
port, a path, and an optional query and fragment.  The path is either a list of
segments (written each after a `/`) or, for a URL that cannot be a base such as
`mailto:x`, one opaque text.  All components are kept already percent-encoded,
so writing a URL back is concatenation (`Url.serialize`).

Six schemes are special: `http`, `https`, `ws`, `wss`, `ftp` and `file`.  All
but `file` have a default port, which is never stored.
-/

namespace ChunkProxy.Url

set_option autoImplicit false

/-- A host: a domain (ASCII after mapping, or the opaque text of a non-special
scheme; empty for a file URL without host), an IPv4 address or the eight pieces
of an IPv6 address. -/
inductive Host where
  | domain (name : String)
  | ipv4 (address : Nat)
  | ipv6 (pieces : List Nat)
  deriving DecidableEq, Repr

/-- The path of a URL. -/
inductive Path where
  | flat (text : String)
  | segments (items : List String)
  deriving DecidableEq, Repr

end ChunkProxy.Url

namespace ChunkProxy

/-- A parsed URL, components percent-encoded. -/
structure Url where
  scheme : String
  username : String := ""
  password : String := ""
  host : Option Url.Host := none
  port : Option Nat := none
  path : Url.Path
  query : Option String := none
  fragment : Option String := none
  deriving DecidableEq, Repr

end ChunkProxy

namespace ChunkProxy.Url

set_option autoImplicit false

/-- The special schemes. -/
def isSpecial (scheme : String) : Bool :=
  scheme ∈ ["http", "https", "ws", "wss", "ftp", "file"]

/-- The default port of a scheme. -/
def defaultPort (scheme : String) : Option Nat :=
  match scheme with
  | "http" => some 80
  | "https" => some 443
  | "ws" => some 80
  | "wss" => some 443
  | "ftp" => some 21
  | _ => none

/-- A lowercase hexadecimal number without leading zeros. -/
def hexLower (n : Nat) : String :=
  String.ofList (Nat.toDigits 16 n)

/-- The pieces before and after the first longest run of at least two zero pieces. -/
def zeroRun (pieces : List Nat) : Option (Nat × Nat) :=
  let indexed := pieces.zipIdx
  let runAt (i : Nat) : Nat := ((pieces.drop i).takeWhile (· == 0)).length
  indexed.foldl (fun best (p, i) =>
    if p != 0 then best
    else
      let len := runAt i
      match best with
      | some (_, bl) => if len > bl then some (i, len) else best
      | none => if len ≥ 2 then some (i, len) else none) none

/-- The text of an IPv6 address: lowercase pieces, the first longest zero run written `::`. -/
def ipv6Text (pieces : List Nat) : String :=
  let join (ps : List Nat) : String := ":".intercalate (ps.map hexLower)
  match zeroRun pieces with
  | some (i, len) => join (pieces.take i) ++ "::" ++ join (pieces.drop (i + len))
  | none => join pieces

/-- The dotted text of an IPv4 address. -/
def ipv4Text (a : Nat) : String :=
  ".".intercalate ([a / Nat.pow 2 24 % 256, a / Nat.pow 2 16 % 256, a / Nat.pow 2 8 % 256, a % 256].map showNat)

namespace Host

/-- The text of a host as it stands in a URL. -/
def serialize : Host → String
  | .domain name => name
  | .ipv4 a => ipv4Text a
  | .ipv6 ps => "[" ++ ipv6Text ps ++ "]"

end Host

namespace Path

/-- The text of a path: the opaque text, or each segment after a `/`. -/
def serialize : Path → String
  | .flat t => t
  | .segments items => String.join (items.map ("/" ++ ·))

/-- Whether the path is a list of segments beginning with an empty one, which a URL
without host must guard by `/.` so that it does not read as an authority. -/
def needsGuard : Path → Bool
  | .segments ("" :: _ :: _) => true
  | _ => false

end Path

/-- Whether the URL has an opaque path. -/
def cannotBeABase (u : Url) : Bool :=
  match u.path with
  | .flat _ => true
  | .segments _ => false

/-- The credentials as written before the host, `@` included, or nothing. -/
def userinfoText (u : Url) : String :=
  if u.username.isEmpty && u.password.isEmpty then ""
  else u.username ++ (if u.password.isEmpty then "" else ":" ++ u.password) ++ "@"

/-- The path as the text it stands for. -/
def pathText (u : Url) : String := u.path.serialize

/-- The port as written after the host, colon included, or nothing. -/
def portText (u : Url) : String :=
  match u.port with
  | some p => ":" ++ showNat p
  | none => ""

/-- The query as written, `?` included, or nothing. -/
def queryText (u : Url) : String :=
  match u.query with
  | some q => "?" ++ q
  | none => ""

/-- The fragment as written, `#` included, or nothing. -/
def fragmentText (u : Url) : String :=
  match u.fragment with
  | some f => "#" ++ f
  | none => ""

/-- The whole URL as text. -/
def serialize (u : Url) : String :=
  let authority :=
    match u.host with
    | some h => "//" ++ u.userinfoText ++ h.serialize ++ u.portText
    | none => if u.path.needsGuard then "/." else ""
  u.scheme ++ ":" ++ authority ++ u.pathText ++ u.queryText ++ u.fragmentText

/-- Removes the query.  When an opaque path is then last, its trailing spaces go too. -/
def clearQuery (u : Url) : Url :=
  let path :=
    match u.path, u.fragment with
    | .flat t, none => .flat (String.ofList (t.toList.reverse.dropWhile (· == ' ')).reverse)
    | p, _ => p
  { u with query := none, path := path }

end ChunkProxy.Url
