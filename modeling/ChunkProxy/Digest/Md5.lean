/-!
# MD5

The message digest of RFC 1321.  The message is padded with a one bit, zeros
and its bit length to a multiple of 64 bytes; each block of sixteen
little-endian words goes through four rounds of sixteen steps that update four
32-bit registers; the digest is the registers in little-endian order.  Cache
keys are the digest written as 32 lowercase hexadecimal digits.
-/

namespace ChunkProxy.Md5

set_option autoImplicit false

/-- The additive constants, `floor (2^32 * |sin (i + 1)|)`. -/
def constants : Array UInt32 := #[
  0xd76aa478, 0xe8c7b756, 0x242070db, 0xc1bdceee, 0xf57c0faf, 0x4787c62a, 0xa8304613, 0xfd469501,
  0x698098d8, 0x8b44f7af, 0xffff5bb1, 0x895cd7be, 0x6b901122, 0xfd987193, 0xa679438e, 0x49b40821,
  0xf61e2562, 0xc040b340, 0x265e5a51, 0xe9b6c7aa, 0xd62f105d, 0x02441453, 0xd8a1e681, 0xe7d3fbc8,
  0x21e1cde6, 0xc33707d6, 0xf4d50d87, 0x455a14ed, 0xa9e3e905, 0xfcefa3f8, 0x676f02d9, 0x8d2a4c8a,
  0xfffa3942, 0x8771f681, 0x6d9d6122, 0xfde5380c, 0xa4beea44, 0x4bdecfa9, 0xf6bb4b60, 0xbebfbc70,
  0x289b7ec6, 0xeaa127fa, 0xd4ef3085, 0x04881d05, 0xd9d4d039, 0xe6db99e5, 0x1fa27cf8, 0xc4ac5665,
  0xf4292244, 0x432aff97, 0xab9423a7, 0xfc93a039, 0x655b59c3, 0x8f0ccc92, 0xffeff47d, 0x85845dd1,
  0x6fa87e4f, 0xfe2ce6e0, 0xa3014314, 0x4e0811a1, 0xf7537e82, 0xbd3af235, 0x2ad7d2bb, 0xeb86d391]

/-- The left-rotation amounts, four per round. -/
def shifts : Array UInt32 := #[7, 12, 17, 22, 5, 9, 14, 20, 4, 11, 16, 23, 6, 10, 15, 21]

/-- Rotates a word left. -/
def rotl (x s : UInt32) : UInt32 := (x <<< s) ||| (x >>> (32 - s))

/-- The four registers. -/
structure Registers where
  a : UInt32
  b : UInt32
  c : UInt32
  d : UInt32

/-- The registers before the first block. -/
def initial : Registers := ⟨0x67452301, 0xefcdab89, 0x98badcfe, 0x10325476⟩

/-- The mixing function and the message word used at step `i`. -/
def mix (i : Nat) (r : Registers) : UInt32 × Nat :=
  if i < 16 then ((r.b &&& r.c) ||| (~~~r.b &&& r.d), i)
  else if i < 32 then ((r.d &&& r.b) ||| (~~~r.d &&& r.c), (5 * i + 1) % 16)
  else if i < 48 then (r.b ^^^ r.c ^^^ r.d, (3 * i + 5) % 16)
  else (r.c ^^^ (r.b ||| ~~~r.d), (7 * i) % 16)

/-- One step of the compression function. -/
def step (words : Array UInt32) (r : Registers) (i : Nat) : Registers :=
  let (f, g) := mix i r
  let s := shifts.getD ((i / 16) * 4 + i % 4) 0
  let sum := r.a + f + constants.getD i 0 + words.getD g 0
  ⟨r.d, r.b + rotl sum s, r.b, r.c⟩

/-- A little-endian word from four bytes. -/
def word (b0 b1 b2 b3 : UInt8) : UInt32 :=
  b0.toUInt32 ||| (b1.toUInt32 <<< 8) ||| (b2.toUInt32 <<< 16) ||| (b3.toUInt32 <<< 24)

/-- The sixteen words of a 64-byte block. -/
def blockWords (block : Array UInt8) : Array UInt32 :=
  (Array.range 16).map fun j =>
    word (block.getD (4 * j) 0) (block.getD (4 * j + 1) 0) (block.getD (4 * j + 2) 0)
      (block.getD (4 * j + 3) 0)

/-- Compresses one block into the registers. -/
def compress (r : Registers) (block : Array UInt8) : Registers :=
  let words := blockWords block
  let r' := (List.range 64).foldl (step words) r
  ⟨r.a + r'.a, r.b + r'.b, r.c + r'.c, r.d + r'.d⟩

/-- The little-endian bytes of a 64-bit length. -/
def lengthBytes (n : Nat) : List UInt8 :=
  (List.range 8).map fun k => UInt8.ofNat (n / Nat.pow 2 (8 * k) % 256)

/-- The padded message: a one bit, zeros up to 56 bytes modulo 64, then the bit length. -/
def pad (msg : List UInt8) : List UInt8 :=
  let zeros := (55 + 64 - msg.length % 64) % 64
  msg ++ [0x80] ++ List.replicate zeros 0 ++ lengthBytes (8 * msg.length)

/-- Splits a list into blocks of 64. -/
def blocks (bs : List UInt8) : List (Array UInt8) :=
  if bs.length ≤ 64 then (if bs.isEmpty then [] else [bs.toArray])
  else (bs.take 64).toArray :: blocks (bs.drop 64)
termination_by bs.length
decreasing_by simp only [List.length_drop]; omega

/-- The little-endian bytes of a word. -/
def wordBytes (w : UInt32) : List UInt8 :=
  [w.toUInt8, (w >>> 8).toUInt8, (w >>> 16).toUInt8, (w >>> 24).toUInt8]

/-- The sixteen bytes of the digest. -/
def digest (msg : List UInt8) : List UInt8 :=
  let r := (blocks (pad msg)).foldl compress initial
  wordBytes r.a ++ wordBytes r.b ++ wordBytes r.c ++ wordBytes r.d

/-- A lowercase hexadecimal digit. -/
def hexDigit (n : Nat) : Char :=
  if n < 10 then Char.ofNat ('0'.toNat + n) else Char.ofNat ('a'.toNat + n - 10)

/-- Bytes as lowercase hexadecimal, two digits each. -/
def hex (bs : List UInt8) : String :=
  String.ofList (bs.flatMap fun b => [hexDigit (b.toNat / 16), hexDigit (b.toNat % 16)])

/-- The digest of a byte string in lowercase hexadecimal. -/
def hexDigest (msg : List UInt8) : String := hex (digest msg)

end ChunkProxy.Md5
