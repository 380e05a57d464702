import ChunkProxy.Bytes.Utf8
/-!
# Header maps

A header map holds named values in the order they were added.  Names are
case-insensitive and stored in lowercase; values are raw bytes.  `get?` gives
the first value of a name, `insert` replaces every value of a name by one,
`append` adds a value after the others.  A value reads as text only when every
byte is visible ASCII or a tab (`text?`).

Header names are tokens: letters, digits and ``!#$%&'*+-.^_`|~``.  Header
values may not hold control bytes other than tab, nor DEL.
-/

namespace ChunkProxy.Http

set_option autoImplicit false

/-- Named header values in insertion order, names in lowercase. -/
structure Headers where
  entries : List (String × List UInt8) := []
  deriving DecidableEq, Repr, Inhabited

/-- A character allowed in a header name. -/
def isTokenChar (c : Char) : Bool :=
  c.isAlphanum || "!#$%&*+-.^_|~".toList.contains c || c.toNat == 0x27 || c.toNat == 0x60

/-- Whether a text is a valid header name. -/
def validName (name : String) : Bool := !name.isEmpty && name.toList.all isTokenChar

/-- Whether bytes are a valid header value. -/
def validValue (value : List UInt8) : Bool :=
  value.all fun b => (b ≥ 0x20 && b != 0x7F) || b == 0x09

/-- A header value as text, when it is visible ASCII and tabs. -/
def text? (value : List UInt8) : Option String :=
  if value.all fun b => (0x20 ≤ b && b < 0x7F) || b == 0x09 then
    some (String.ofList (value.map fun b => Char.ofNat b.toNat))
  else none

namespace Headers

/-- The empty map. -/
def empty : Headers := {}

/-- Lowercases an ASCII name. -/
def normName (name : String) : String := name.toLower

/-- The first value of a name. -/
def get? (h : Headers) (name : String) : Option (List UInt8) :=
  h.entries.lookup (normName name)

/-- The first value of a name, as text when it reads as text. -/
def getText? (h : Headers) (name : String) : Option String := (h.get? name).bind text?

/-- Whether a name has a value. -/
def contains (h : Headers) (name : String) : Bool := (h.get? name).isSome

/-- All values of a name, in order. -/
def getAll (h : Headers) (name : String) : List (List UInt8) :=
  (h.entries.filter (·.1 == normName name)).map (·.2)

/-- Adds a value after the others of its name. -/
def append (h : Headers) (name : String) (value : List UInt8) : Headers :=
  { entries := h.entries ++ [(normName name, value)] }

/-- Removes every value of a name. -/
def erase (h : Headers) (name : String) : Headers :=
  { entries := h.entries.filter (·.1 != normName name) }

/-- Replaces every value of a name by one value, at the place of the first. -/
def insert (h : Headers) (name : String) (value : List UInt8) : Headers :=
  let n := normName name
  if h.contains n then
    let before := h.entries.takeWhile (·.1 != n)
    let after := (h.entries.dropWhile (·.1 != n)).drop 1
    { entries := before ++ [(n, value)] ++ after.filter (·.1 != n) }
  else h.append n value

/-- Replaces every value of a name by a text value. -/
def insertText (h : Headers) (name value : String) : Headers := h.insert name (Utf8.encode value)

/-- The entries sorted by name, values of one name in their order. -/
def sorted (h : Headers) : List (String × List UInt8) :=
  h.entries.mergeSort fun a b => decide (a.1 ≤ b.1)

/-- Builds a map from pairs, appending in order. -/
def ofList (kvs : List (String × List UInt8)) : Headers :=
  kvs.foldl (fun h (k, v) => h.append k v) empty

end Headers

end ChunkProxy.Http
