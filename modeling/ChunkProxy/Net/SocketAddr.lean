import ChunkProxy.Text.Quote
/-!
# Socket addresses

A socket address is an IPv4 address and a port, `a.b.c.d:port`, or an IPv6
address in brackets, with an optional numeric zone, and a port:
`[addr%zone]:port`.  Host names are not addresses.

IPv4 parts are decimal numbers up to 255, written without leading zeros.  An
IPv6 address is up to eight groups of one to four hexadecimal digits, one run
of them replaced by `::`, the last two possibly written as an IPv4 address.
Ports are decimal numbers up to 65535 and zones numbers up to 2^32 - 1; both
may have leading zeros.  The whole text must be the address.

Addresses print in canonical form: IPv6 groups in lowercase hexadecimal
without leading zeros, the longest run of two or more zero groups (the first
of equal runs) written `::`, and an IPv4-mapped address as `::ffff:a.b.c.d`.
-/

namespace ChunkProxy.Net

set_option autoImplicit false

/-- An IP address: four octets or eight 16-bit groups and a zone. -/
inductive IpAddr where
  | v4 (octets : List Nat)
  | v6 (groups : List Nat) (zone : Nat)
  deriving DecidableEq, Repr

/-- A socket address: an IP address and a port. -/
structure SocketAddr where
  ip : IpAddr
  port : Nat
  deriving DecidableEq, Repr

/-- The value of a digit in a radix. -/
def digitIn (radix : Nat) (c : Char) : Option Nat :=
  let v :=
    if c.isDigit then some (c.toNat - '0'.toNat)
    else if 'a' ≤ c && c ≤ 'z' then some (c.toNat - 'a'.toNat + 10)
    else if 'A' ≤ c && c ≤ 'Z' then some (c.toNat - 'A'.toNat + 10)
    else none
  v.filter (· < radix)

/-- Reads a number: at least one digit, at most `maxDigits`, no larger than `limit`,
and no leading zero unless allowed. -/
def readNumber (radix : Nat) (maxDigits : Option Nat) (zeroPrefix : Bool) (limit : Nat)
    (cs : List Char) : Option (Nat × List Char) :=
  let digits := cs.takeWhile fun c => (digitIn radix c).isSome
  let value := digits.foldl (fun acc c => acc * radix + (digitIn radix c).getD 0) 0
  if digits.isEmpty then none
  else if maxDigits.any (digits.length > ·) then none
  else if value > limit then none
  else if !zeroPrefix && digits.head? == some '0' && digits.length > 1 then none
  else some (value, cs.drop digits.length)

/-- Reads a given character. -/
def readChar (c : Char) : List Char → Option (List Char)
  | d :: rest => if c == d then some rest else none
  | [] => none

/-- Reads an IPv4 address. -/
def readIpv4 (cs : List Char) : Option (List Nat × List Char) := do
  let (a, cs) ← readNumber 10 (some 3) false 255 cs
  let cs ← readChar '.' cs
  let (b, cs) ← readNumber 10 (some 3) false 255 cs
  let cs ← readChar '.' cs
  let (c, cs) ← readNumber 10 (some 3) false 255 cs
  let cs ← readChar '.' cs
  let (d, cs) ← readNumber 10 (some 3) false 255 cs
  pure ([a, b, c, d], cs)

/-- Reads up to `limit` colon-separated groups; the last two may be an IPv4 address.
Returns the groups and whether an IPv4 address ended them. -/
def readGroups (limit : Nat) : Nat → List Nat → List Char → List Nat × Bool × List Char
  | 0, acc, cs => (acc, false, cs)
  | fuel + 1, acc, cs =>
    let i := acc.length
    if i ≥ limit then (acc, false, cs)
    else
      let sep : Option (List Char) := if i > 0 then readChar ':' cs else some cs
      let v4 : Option (List Nat × List Char) :=
        if i + 1 < limit then sep.bind readIpv4 else none
      match v4 with
      | some ([a, b, c, d], rest) => (acc ++ [a * 256 + b, c * 256 + d], true, rest)
      | _ =>
        match sep.bind (readNumber 16 (some 4) true 0xFFFF) with
        | some (g, rest) => readGroups limit fuel (acc ++ [g]) rest
        | none => (acc, false, cs)

/-- Reads an IPv6 address. -/
def readIpv6 (cs : List Char) : Option (List Nat × List Char) := do
  let (head, headV4, cs) := readGroups 8 9 [] cs
  if head.length == 8 then return (head, cs)
  if headV4 then none
  let cs ← readChar ':' cs
  let cs ← readChar ':' cs
  let (tail, _, cs) := readGroups (8 - (head.length + 1)) 9 [] cs
  pure (head ++ List.replicate (8 - head.length - tail.length) 0 ++ tail, cs)

/-- Reads a socket address; the whole text must be the address. -/
def SocketAddr.parse (text : String) : Option SocketAddr :=
  let cs := text.toList
  let v4 : Option SocketAddr := do
    let (ip, cs) ← readIpv4 cs
    let cs ← readChar ':' cs
    let (port, cs) ← readNumber 10 none true 65535 cs
    if cs.isEmpty then some ⟨.v4 ip, port⟩ else none
  let v6 : Option SocketAddr := do
    let cs ← readChar '[' cs
    let (ip, cs) ← readIpv6 cs
    let (zone, cs) :=
      match (readChar '%' cs).bind (readNumber 10 none true (Nat.pow 2 32 - 1)) with
      | some (z, rest) => (z, rest)
      | none => (0, cs)
    let cs ← readChar ']' cs
    let cs ← readChar ':' cs
    let (port, cs) ← readNumber 10 none true 65535 cs
    if cs.isEmpty then some ⟨.v6 ip zone, port⟩ else none
  v4.orElse fun _ => v6

/-- The message for a text that is not a socket address. -/
def invalidSyntax : String := "invalid socket address syntax"

/-- The longest run of zero groups (first of equal ones): start and length. -/
def longestZeros (gs : List Nat) : Nat × Nat :=
  let step := fun (acc : (Nat × Nat) × (Nat × Nat) × Nat) (g : Nat) =>
    let (best, cur, i) := acc
    if g == 0 then
      let cur := if cur.2 == 0 then (i, 1) else (cur.1, cur.2 + 1)
      (if cur.2 > best.2 then cur else best, cur, i + 1)
    else (best, (0, 0), i + 1)
  (gs.foldl step ((0, 0), (0, 0), 0)).1

/-- An IPv4 address in dotted form. -/
def ipv4Text (os : List Nat) : String := ".".intercalate (os.map showNat)

/-- An IPv6 address in canonical form. -/
def ipv6Text (gs : List Nat) : String :=
  match gs with
  | [0, 0, 0, 0, 0, 0xFFFF, ab, cd] => "::ffff:" ++ ipv4Text [ab / 256, ab % 256, cd / 256, cd % 256]
  | _ =>
    let (start, len) := longestZeros gs
    let part (xs : List Nat) : String := ":".intercalate (xs.map Text.hexDigits)
    if len > 1 then part (gs.take start) ++ "::" ++ part (gs.drop (start + len)) else part gs

/-- A socket address in canonical form. -/
def SocketAddr.render (a : SocketAddr) : String :=
  match a.ip with
  | .v4 os => ipv4Text os ++ ":" ++ showNat a.port
  | .v6 gs zone =>
    "[" ++ ipv6Text gs ++ (if zone == 0 then "" else "%" ++ showNat zone) ++ "]:" ++ showNat a.port

end ChunkProxy.Net
