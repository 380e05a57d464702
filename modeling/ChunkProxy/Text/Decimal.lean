/-!
# Unsigned 64-bit decimal numbers

Numbers in headers and paths are unsigned 64-bit words written in decimal.  A
reading takes an optional leading `+`, then at least one digit; the digits are
read from the left, so the first fault met decides the error: a character that
is no digit, or a value that passes `2^64 - 1`.  Leading zeros are allowed.

`Decimal.readWord` returns the value or the cause, and `ReadError.message` is the
wording the program prints for each cause.
-/

namespace ChunkProxy

set_option autoImplicit false

/-- One past the largest unsigned 64-bit word. -/
def wordBound : Nat := Nat.pow 2 64

/-- The largest unsigned 64-bit word. -/
def wordMax : Nat := wordBound - 1

/-- Why a decimal word could not be read. -/
inductive ReadError where
  /-- The text holds no digit at all. -/
  | empty
  /-- A character is not a decimal digit. -/
  | invalidDigit
  /-- The value passes the largest word. -/
  | tooLarge
  deriving DecidableEq, Repr

namespace ReadError

/-- The wording of each cause. -/
def message : ReadError → String
  | .empty => "cannot parse integer from empty string"
  | .invalidDigit => "invalid digit found in string"
  | .tooLarge => "number too large to fit in target type"

end ReadError

namespace Decimal

/-- The value of a decimal digit character. -/
def digitValue? (c : Char) : Option Nat :=
  if '0' ≤ c ∧ c ≤ '9' then some (c.toNat - '0'.toNat) else none

/-- Reads digits from the left onto an accumulated value. -/
def readDigits : Nat → List Char → Except ReadError Nat
  | acc, [] => .ok acc
  | acc, c :: rest =>
    match digitValue? c with
    | none => .error .invalidDigit
    | some d =>
      let v := acc * 10 + d
      if v < wordBound then readDigits v rest else .error .tooLarge

/-- Reads an unsigned 64-bit word from a character list. -/
def readWordList : List Char → Except ReadError Nat
  | [] => .error .empty
  | ['+'] => .error .invalidDigit
  | '+' :: rest => readDigits 0 rest
  | cs => readDigits 0 cs

/-- Reads an unsigned 64-bit word. -/
def readWord (s : String) : Except ReadError Nat := readWordList s.toList

/-- Reads an unsigned 64-bit word, forgetting the cause of a failure. -/
def readWord? (s : String) : Option Nat :=
  match readWord s with
  | .ok n => some n
  | .error _ => none

/-- Reads an unsigned 16-bit number the same way. -/
def readShort? (s : String) : Option Nat :=
  match readWord s with
  | .ok n => if n < 65536 then some n else none
  | .error _ => none

/-- A value read is always a word. -/
theorem readDigits_lt (acc : Nat) (cs : List Char) (n : Nat) (hacc : acc < wordBound)
    (h : readDigits acc cs = .ok n) : n < wordBound := by
  induction cs generalizing acc with
  | nil => simp [readDigits] at h; omega
  | cons c rest ih =>
    simp only [readDigits] at h
    split at h
    · cases h
    · split at h
      · exact ih _ ‹_› h
      · cases h

end Decimal

/-- Decimal text of a natural number. -/
def showNat (n : Nat) : String := String.ofList (Nat.toDigits 10 n)

/-- Decimal text of an integer, with a leading minus sign when negative. -/
def showInt (n : Int) : String :=
  if n < 0 then "-" ++ showNat n.natAbs else showNat n.natAbs

end ChunkProxy
