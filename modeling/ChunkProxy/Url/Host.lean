import ChunkProxy.Url.Basic
import ChunkProxy.Url.Percent
import ChunkProxy.Url.Idna
/-!
# Hosts

The host of a special URL is read in four steps: a bracketed text is an IPv6
address; anything else is percent-decoded, read as UTF-8 (ill-formed bytes
becoming U+FFFD), mapped to ASCII as a domain, and refused when empty or when
it holds a forbidden character.  A domain whose last label is a number (all
digits, or `0x` and hexadecimal digits) must be an IPv4 address in one of the
classic notations: one to four parts, each decimal, octal with a leading zero
or hexadecimal with `0x`, the last part filling the remaining bytes.

The host of a URL with a non-special scheme is opaque: it must avoid the
forbidden host characters and is kept with controls and non-ASCII
percent-encoded.
-/

namespace ChunkProxy.Url

set_option autoImplicit false

/-- Why a URL could not be read. -/
inductive ParseError where
  | emptyHost
  | idna
  | invalidPort
  | invalidIpv4
  | invalidIpv6
  | invalidDomainCharacter
  | relativeWithoutBase
  | relativeWithOpaqueBase
  deriving DecidableEq, Repr

/-- Characters that may not stand in a domain. -/
def forbiddenInDomain (c : Char) : Bool :=
  c.toNat ≤ 0x1F || c ∈ [' ', '#', '%', '/', ':', '<', '>', '?', '@', '[', '\\', ']', '^', '|'] ||
    c.toNat == 0x7F

/-- Characters that may not stand in an opaque host. -/
def forbiddenInOpaqueHost (c : Char) : Bool :=
  c ∈ [Char.ofNat 0, '\t', '\n', '\r', ' ', '#', '/', ':', '<', '>', '?', '@', '[', '\\', ']',
    '^', '|']

/-- The value of a digit in a radix, for radices up to 16. -/
def digitIn (radix : Nat) (c : Char) : Option Nat :=
  match hexValue? c with
  | some v => if v < radix then some v else none
  | none => none

/-- Reads the digits of a number in a radix. -/
def readRadix (radix : Nat) (cs : List Char) : Option Nat :=
  cs.foldlM (fun acc c => (digitIn radix c).map (acc * radix + ·)) 0

/-- Reads one part of an IPv4 address: `0x` hexadecimal, leading-zero octal or
decimal; the empty remainder after a prefix is zero. -/
def ipv4Number (cs : List Char) : Option Nat :=
  match cs with
  | [] => none
  | '0' :: x :: rest =>
    if x == 'x' || x == 'X' then readRadix 16 rest else readRadix 8 (x :: rest)
  | _ => readRadix 10 cs

/-- Whether the last label (a final empty label aside) is a number. -/
def endsInNumber (domain : String) : Bool :=
  let parts := domain.splitOn "."
  let parts := if parts.getLast? == some "" && parts.length > 1 then parts.dropLast else parts
  match parts.getLast? with
  | none => false
  | some last =>
    if last == "" then false
    else if last.toList.all Char.isDigit then true
    else (ipv4Number last.toList).isSome

/-- Reads an IPv4 address in the classic notations. -/
def parseIpv4 (domain : String) : Except ParseError Nat := do
  let parts := domain.splitOn "."
  let parts := if parts.getLast? == some "" && parts.length > 1 then parts.dropLast else parts
  if parts.length > 4 then throw .invalidIpv4
  let numbers ← parts.mapM fun p =>
    match ipv4Number p.toList with
    | some n => if n < Nat.pow 2 32 then pure n else throw .invalidIpv4
    | none => throw .invalidIpv4
  match numbers.reverse with
  | [] => throw .invalidIpv4
  | last :: earlier =>
    let earlier := earlier.reverse
    if last ≥ Nat.pow 256 (4 - earlier.length) then throw .invalidIpv4
    if earlier.any (· > 255) then throw .invalidIpv4
    pure (earlier.zipIdx.foldl (fun acc (n, i) => acc + n * Nat.pow 256 (3 - i)) last)

/-- Reads a dotted quad inside an IPv6 address: four decimal numbers up to 255
without leading zeros. -/
def embeddedIpv4 (cs : List Char) : Option (List Nat) := do
  let parts := cs.splitOn '.'
  if parts.length ≠ 4 then none
  let nums ← parts.mapM fun p =>
    match p with
    | [] => none
    | '0' :: _ :: _ => none
    | _ => if p.all Char.isDigit then
        let v := p.foldl (fun acc c => acc * 10 + (c.toNat - '0'.toNat)) 0
        if v ≤ 255 then some v else none
      else none
  match nums with
  | [a, b, c, d] => some [a * 256 + b, c * 256 + d]
  | _ => none

/-- Reads the colon-separated pieces of one side of an IPv6 address; the last
piece of the address may be a dotted quad. -/
def ipv6Pieces (cs : List Char) (lastSide : Bool) : Option (List Nat) :=
  if cs.isEmpty then some []
  else
    let groups := cs.splitOn ':'
    let n := groups.length
    (groups.zipIdx.mapM fun ((g : List Char), (i : Nat)) =>
      if g.isEmpty then none
      else if g.contains '.' then
        if lastSide && i + 1 == n then embeddedIpv4 g else none
      else if g.length ≤ 4 then (readRadix 16 g).map ([·])
      else none).map List.flatten

/-- Splits at the first `::`. -/
def splitCompress : List Char → Option (List Char × List Char)
  | [] => none
  | ':' :: ':' :: rest => some ([], rest)
  | c :: rest => (splitCompress rest).map fun (l, r) => (c :: l, r)

/-- Reads an IPv6 address (without brackets) into eight pieces. -/
def parseIpv6 (cs : List Char) : Except ParseError (List Nat) :=
  match splitCompress cs with
  | some (left, right) =>
    match ipv6Pieces left false, ipv6Pieces right true with
    | some l, some r =>
      if l.length + r.length ≤ 7 then
        .ok (l ++ List.replicate (8 - l.length - r.length) 0 ++ r)
      else .error .invalidIpv6
    | _, _ => .error .invalidIpv6
  | none =>
    match ipv6Pieces cs true with
    | some ps => if ps.length == 8 then .ok ps else .error .invalidIpv6
    | none => .error .invalidIpv6

/-- Reads a bracketed IPv6 host, the brackets included. -/
def parseBracketed (cs : List Char) : Except ParseError Host :=
  if cs.getLast? != some ']' then .error .invalidIpv6
  else (parseIpv6 ((cs.drop 1).dropLast)).map Host.ipv6

/-- Reads the host of a URL with a special scheme. -/
def parseSpecialHost (cs : List Char) : Except ParseError Host :=
  if cs.head? == some '[' then parseBracketed cs
  else
    let decoded := Utf8.decodeLossy (decodeBytes (cs.flatMap fun c => Utf8.encodeChar c))
    match Idna.toAscii decoded with
    | none => .error .idna
    | some domain =>
      if domain.isEmpty then .error .emptyHost
      else if domain.toList.any forbiddenInDomain then .error .invalidDomainCharacter
      else if endsInNumber domain then (parseIpv4 domain).map Host.ipv4
      else .ok (.domain domain)

/-- Reads the opaque host of a URL with a non-special scheme. -/
def parseOpaqueHost (cs : List Char) : Except ParseError Host :=
  if cs.head? == some '[' then parseBracketed cs
  else if cs.any forbiddenInOpaqueHost then .error .invalidDomainCharacter
  else .ok (.domain (encodeChars controls cs))

end ChunkProxy.Url
