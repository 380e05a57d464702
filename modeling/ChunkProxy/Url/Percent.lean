import ChunkProxy.Bytes.Utf8
/-!
# Percent-encoding

A URL component writes a byte that is not allowed in it as `%` and two
uppercase hexadecimal digits.  Each component has its own set of ASCII bytes
to encode; every byte of a non-ASCII character is always encoded.  The sets
nest: the C0 controls and DEL are in all of them, the fragment set adds space,
`"`, `<`, `>` and the backquote, the path set adds `#`, `?`, `{` and `}`, and
the userinfo set adds the delimiters of an authority.  The query set is the
controls with space, `"`, `#`, `<` and `>`, and special schemes add the
apostrophe.  A `%` already in the input is kept as it is.
-/

namespace ChunkProxy.Url

set_option autoImplicit false

/-- A set of ASCII bytes that a component encodes. -/
abbrev EncodeSet := UInt8 → Bool

/-- The C0 controls and DEL. -/
def controls : EncodeSet := fun b => b < 0x20 || b == 0x7F

/-- Bytes encoded in a fragment. -/
def fragmentSet : EncodeSet := fun b =>
  controls b || b == 0x20 || b == 0x22 || b == 0x3C || b == 0x3E || b == 0x60

/-- Bytes encoded in a path segment. -/
def pathSet : EncodeSet := fun b =>
  fragmentSet b || b == 0x23 || b == 0x3F || b == 0x7B || b == 0x7D

/-- Bytes encoded in a user name or password. -/
def userinfoSet : EncodeSet := fun b =>
  pathSet b || b == 0x2F || b == 0x3A || b == 0x3B || b == 0x3D || b == 0x40 || b == 0x5B ||
    b == 0x5C || b == 0x5D || b == 0x5E || b == 0x7C

/-- Bytes encoded in the query of a URL whose scheme is not special. -/
def querySet : EncodeSet := fun b =>
  controls b || b == 0x20 || b == 0x22 || b == 0x23 || b == 0x3C || b == 0x3E

/-- Bytes encoded in the query of a URL with a special scheme. -/
def specialQuerySet : EncodeSet := fun b => querySet b || b == 0x27

/-- An uppercase hexadecimal digit. -/
def hexUpper (n : Nat) : Char :=
  if n < 10 then Char.ofNat ('0'.toNat + n) else Char.ofNat ('A'.toNat + n - 10)

/-- The escape of one byte. -/
def escapeByte (b : UInt8) : List Char := ['%', hexUpper (b.toNat / 16), hexUpper (b.toNat % 16)]

/-- One byte as it stands in a component: escaped when non-ASCII or in the set. -/
def encodeByte (set : EncodeSet) (b : UInt8) : List Char :=
  if b ≥ 0x80 || set b then escapeByte b else [Char.ofNat b.toNat]

/-- One character as it stands in a component. -/
def encodeChar (set : EncodeSet) (c : Char) : List Char :=
  (Utf8.encodeChar c).flatMap (encodeByte set)

/-- Characters as they stand in a component. -/
def encodeChars (set : EncodeSet) (cs : List Char) : String :=
  String.ofList (cs.flatMap (encodeChar set))

/-- Bytes as they stand in a component. -/
def encodeBytes (set : EncodeSet) (bs : List UInt8) : String :=
  String.ofList (bs.flatMap (encodeByte set))

/-- The value of a hexadecimal digit of either case. -/
def hexValue? (c : Char) : Option Nat :=
  if '0' ≤ c ∧ c ≤ '9' then some (c.toNat - '0'.toNat)
  else if 'a' ≤ c ∧ c ≤ 'f' then some (c.toNat - 'a'.toNat + 10)
  else if 'A' ≤ c ∧ c ≤ 'F' then some (c.toNat - 'A'.toNat + 10)
  else none

/-- Decodes escapes in bytes: `%` and two hexadecimal digits become that byte; any
other `%` stays. -/
def decodeBytes : List UInt8 → List UInt8
  | [] => []
  | 0x25 :: h :: l :: rest =>
    match hexValue? (Char.ofNat h.toNat), hexValue? (Char.ofNat l.toNat) with
    | some x, some y => UInt8.ofNat (16 * x + y) :: decodeBytes rest
    | _, _ => 0x25 :: decodeBytes (h :: l :: rest)
  | b :: rest => b :: decodeBytes rest

/-- Decodes escapes in a text, giving bytes. -/
def decodeText (s : String) : List UInt8 := decodeBytes (Utf8.encode s)

end ChunkProxy.Url
