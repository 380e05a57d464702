/-!
# UTF-8 text from bytes

Byte strings become text in two ways.  The strict reading accepts only
well-formed UTF-8.  The lossy reading replaces each maximal ill-formed part by
U+FFFD: a lead byte followed by continuation bytes that could still begin a
well-formed sequence counts as one part, and decoding resumes at the first byte
that breaks the sequence.  Both use the same step, `Utf8.units`, which yields a
scalar value or a fault for each part.
-/

namespace ChunkProxy.Utf8

set_option autoImplicit false

/-- The scalar value of two to four bytes, given the payload bits. -/
def scalar (parts : List Nat) : Char :=
  Char.ofNat (parts.foldl (fun acc p => acc * 64 + p) 0)

/-- What a lead byte asks of its sequence: how many continuation bytes follow,
and the range the first of them must lie in (it excludes overlong forms,
surrogates and values past U+10FFFF). -/
def leadShape (b : UInt8) : Option (Nat × UInt8 × UInt8) :=
  if 0xC2 ≤ b && b ≤ 0xDF then some (1, 0x80, 0xBF)
  else if b == 0xE0 then some (2, 0xA0, 0xBF)
  else if b == 0xED then some (2, 0x80, 0x9F)
  else if 0xE1 ≤ b && b ≤ 0xEF then some (2, 0x80, 0xBF)
  else if b == 0xF0 then some (3, 0x90, 0xBF)
  else if b == 0xF4 then some (3, 0x80, 0x8F)
  else if 0xF1 ≤ b && b ≤ 0xF3 then some (3, 0x80, 0xBF)
  else none

/-- How many of the bytes, from the front, continue a sequence whose first
continuation byte lies between `lo` and `hi`. -/
def acceptedPrefix (lo hi : UInt8) : List UInt8 → Nat
  | [] => 0
  | c :: rest => if lo ≤ c && c ≤ hi then 1 + acceptedPrefix 0x80 0xBF rest else 0

/-- The payload bits of a lead byte that asks for `n` continuation bytes. -/
def leadBits (n : Nat) (b : UInt8) : Nat :=
  if n == 1 then (b &&& 0x1F).toNat else if n == 2 then (b &&& 0x0F).toNat else (b &&& 0x07).toNat

/-- Splits bytes into decoded characters, `none` standing for one ill-formed part. -/
def units (bs : List UInt8) : List (Option Char) :=
  match bs with
  | [] => []
  | b :: rest =>
    if b < 0x80 then some (Char.ofNat b.toNat) :: units rest
    else
      match leadShape b with
      | none => none :: units rest
      | some (n, lo, hi) =>
        let k := acceptedPrefix lo hi (rest.take n)
        if k == n then
          some (scalar (leadBits n b :: (rest.take n).map (fun c => (c &&& 0x3F).toNat))) ::
            units (rest.drop n)
        else none :: units (rest.drop k)
termination_by bs.length
decreasing_by all_goals (simp only [List.length_cons, List.length_drop]; omega)

/-- The replacement character U+FFFD. -/
def replacement : Char := Char.ofNat 0xFFFD

/-- Lossy reading: every ill-formed part becomes U+FFFD. -/
def decodeLossy (bs : List UInt8) : String :=
  String.ofList ((units bs).map (fun u => u.getD replacement))

/-- Strict reading: `none` when some part is ill-formed. -/
def decode? (bs : List UInt8) : Option String :=
  ((units bs).mapM id).map String.ofList

/-- The UTF-8 bytes of a text. -/
def encode (s : String) : List UInt8 := s.toUTF8.toList

/-- The UTF-8 bytes of one character. -/
def encodeChar (c : Char) : List UInt8 := encode (String.singleton c)

end ChunkProxy.Utf8
