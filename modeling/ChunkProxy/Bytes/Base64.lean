/-!
# Base64

Base64 writes three bytes as four symbols of six bits.  Two alphabets are in
use: the standard one ends in `+` and `/`, the URL-safe one in `-` and `_`.  A
reading is strict in three ways: every symbol belongs to the alphabet, a final
group of one symbol is refused, and the bits that the last symbol carries past
the last whole byte are zero.  Padding with `=` is either required in its one
canonical form (as many `=` as complete the last group of four) or refused.

Padded standard base64 is also how the program writes bytes that are not text.
-/

namespace ChunkProxy.Base64

set_option autoImplicit false

/-- A base64 alphabet: the two symbols for the values 62 and 63. -/
structure Alphabet where
  sym62 : Char
  sym63 : Char

/-- `+` and `/`. -/
def standard : Alphabet := ⟨'+', '/'⟩

/-- `-` and `_`. -/
def urlSafe : Alphabet := ⟨'-', '_'⟩

/-- A dialect: an alphabet and whether canonical padding is required (`true`) or refused. -/
structure Dialect where
  alphabet : Alphabet
  padded : Bool

/-- The value of a symbol. -/
def Alphabet.value? (a : Alphabet) (c : Char) : Option Nat :=
  if 'A' ≤ c ∧ c ≤ 'Z' then some (c.toNat - 'A'.toNat)
  else if 'a' ≤ c ∧ c ≤ 'z' then some (c.toNat - 'a'.toNat + 26)
  else if '0' ≤ c ∧ c ≤ '9' then some (c.toNat - '0'.toNat + 52)
  else if c = a.sym62 then some 62
  else if c = a.sym63 then some 63
  else none

/-- The symbol of a value below 64. -/
def Alphabet.symbol (a : Alphabet) (v : Nat) : Char :=
  if v < 26 then Char.ofNat ('A'.toNat + v)
  else if v < 52 then Char.ofNat ('a'.toNat + v - 26)
  else if v < 62 then Char.ofNat ('0'.toNat + v - 52)
  else if v = 62 then a.sym62 else a.sym63

/-- Bytes of a group of two to four six-bit values, as a big-endian number cut to whole bytes. -/
def groupBytes : List Nat → List UInt8
  | [a, b] => [UInt8.ofNat ((a * 4) + b / 16)]
  | [a, b, c] => [UInt8.ofNat (a * 4 + b / 16), UInt8.ofNat ((b % 16) * 16 + c / 4)]
  | [a, b, c, d] =>
    [UInt8.ofNat (a * 4 + b / 16), UInt8.ofNat ((b % 16) * 16 + c / 4),
      UInt8.ofNat ((c % 4) * 64 + d)]
  | _ => []

/-- The bits that the last value of a short group carries beyond its last byte are zero. -/
def tailClean : List Nat → Bool
  | [_, b] => b % 16 == 0
  | [_, _, c] => c % 4 == 0
  | _ => true

/-- Decodes values four at a time; the last group may be short but not of one value. -/
def decodeValues : List Nat → Option (List UInt8)
  | [] => some []
  | [_] => none
  | a :: b :: c :: d :: e :: rest =>
    (decodeValues (e :: rest)).map (fun r => groupBytes [a, b, c, d] ++ r)
  | vs => if tailClean vs then some (groupBytes vs) else none

/-- Reads base64 in a dialect. -/
def decode (d : Dialect) (s : String) : Option (List UInt8) := do
  let cs := s.toList
  let body := cs.takeWhile (· ≠ '=')
  let pad := cs.dropWhile (· ≠ '=')
  if pad.any (· ≠ '=') then none
  let values ← body.mapM d.alphabet.value?
  let need := (4 - body.length % 4) % 4
  if d.padded then
    if pad.length ≠ need then none
  else
    if pad.length ≠ 0 then none
  decodeValues values

/-- Writes one group of one to three bytes as symbols, padded to four. -/
def encodeGroup (a : Alphabet) : List UInt8 → List Char
  | [x] =>
    [a.symbol (x.toNat / 4), a.symbol ((x.toNat % 4) * 16), '=', '=']
  | [x, y] =>
    [a.symbol (x.toNat / 4), a.symbol ((x.toNat % 4) * 16 + y.toNat / 16),
      a.symbol ((y.toNat % 16) * 4), '=']
  | [x, y, z] =>
    [a.symbol (x.toNat / 4), a.symbol ((x.toNat % 4) * 16 + y.toNat / 16),
      a.symbol ((y.toNat % 16) * 4 + z.toNat / 64), a.symbol (z.toNat % 64)]
  | _ => []

/-- Writes bytes in padded standard base64. -/
def encode (bs : List UInt8) : String :=
  String.ofList (go bs)
where
  go : List UInt8 → List Char
    | x :: y :: z :: rest => encodeGroup standard [x, y, z] ++ go rest
    | rest => encodeGroup standard rest

end ChunkProxy.Base64
