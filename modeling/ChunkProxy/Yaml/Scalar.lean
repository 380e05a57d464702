import ChunkProxy.Number.Binary64
import ChunkProxy.Text.Quote
/-!
# Plain scalars

A plain scalar with no tag means what its text looks like, tried in this order:

* empty, `null`, `Null`, `NULL` or `~` is the null value;
* `true`, `True`, `TRUE`, `false`, `False`, `FALSE` is a boolean;
* an integer: decimal, or `0x`, `0o`, `0b` followed by digits of that base, with an
  optional `+` before an unsigned one and a `-` before a negative one.  It is read
  as an unsigned 64-bit word, else as a negative 64-bit integer, else as an
  unsigned or a negative 128-bit integer.  A leading zero followed by more digits
  makes text, not a number;
* a finite decimal number with an optional fraction and exponent, or one of the
  spellings of infinity and not-a-number (`.inf`, `-.inf`, `.nan` and their
  capitalisations);
* anything else is text.

A scalar that is quoted or written as a block is always text.  Each kind has the
description an error gives it, such as ``integer `5` `` or ``string "abc"``.
-/

namespace ChunkProxy.Yaml

set_option autoImplicit false

/-- A binary64 number with its sign, or an infinity, or not-a-number. -/
inductive Real64 where
  | finite (negative : Bool) (magnitude : Binary64)
  | infinite (negative : Bool)
  | nan
  deriving DecidableEq, Repr

/-- A number as an error shows it: the shortest decimal, with `.0` added when it has
no point. -/
def Real64.render : Real64 → String
  | .finite neg x =>
    let s := (if neg then "-" else "") ++ x.render
    if s.contains '.' then s else s ++ ".0"
  | .infinite neg => if neg then "-inf" else "inf"
  | .nan => "NaN"

/-- What a plain scalar means. -/
inductive PlainValue where
  | null
  | bool (b : Bool)
  /-- An integer below `2^64`. -/
  | word (n : Nat)
  /-- A negative integer no lower than `-2^63` (or minus zero). -/
  | signed (n : Int)
  /-- An integer below `2^128`. -/
  | wide (n : Nat)
  /-- A negative integer no lower than `-2^127`. -/
  | wideSigned (n : Int)
  | real (x : Real64)
  | text
  deriving DecidableEq, Repr

/-- Whether text is one of the spellings of null. -/
def isNullText (s : String) : Bool :=
  s == "null" || s == "Null" || s == "NULL" || s == "~"

/-- The boolean a text spells, if any. -/
def boolText? (s : String) : Option Bool :=
  if s == "true" || s == "True" || s == "TRUE" then some true
  else if s == "false" || s == "False" || s == "FALSE" then some false
  else none

/-- The value of a digit in a base, if it is one. -/
def digitIn (base : Nat) (c : Char) : Option Nat :=
  let v :=
    if '0' ≤ c && c ≤ '9' then some (c.toNat - '0'.toNat)
    else if 'a' ≤ c && c ≤ 'z' then some (c.toNat - 'a'.toNat + 10)
    else if 'A' ≤ c && c ≤ 'Z' then some (c.toNat - 'A'.toNat + 10)
    else none
  v.bind fun d => if d < base then some d else none

/-- The value of a non-empty string of digits in a base. -/
def digitsValue? (base : Nat) (cs : List Char) : Option Nat :=
  if cs.isEmpty then none
  else cs.foldl (fun acc c => acc.bind fun a => (digitIn base c).map (a * base + ·)) (some 0)

/-- Whether text is a zero followed by more decimal digits (after one sign): text, not
a number. -/
def leadingZeroDigits (s : String) : Bool :=
  let cs := match s.toList with
    | '-' :: r => r
    | '+' :: r => r
    | r => r
  match cs with
  | '0' :: r => !r.isEmpty && r.all Char.isDigit
  | _ => false

/-- The base a prefix `0x`, `0o` or `0b` names, and the digits after it. -/
def basePrefix? : List Char → Option (Nat × List Char)
  | '0' :: 'x' :: r => some (16, r)
  | '0' :: 'o' :: r => some (8, r)
  | '0' :: 'b' :: r => some (2, r)
  | _ => none

/-- Reads an unsigned integer below a bound: an optional `+`, then a based or a
decimal number. -/
def readUnsigned? (bound : Nat) (s : String) : Option Nat :=
  let cs := s.toList
  let rest := match cs with
    | '+' :: r => r
    | r => r
  let fits (n : Nat) : Option Nat := if n < bound then some n else none
  let based : Option Nat :=
    match basePrefix? rest with
    | some (base, ds) => (digitsValue? base ds).bind fits
    | none => none
  match based with
  | some n => some n
  | none =>
    match rest with
    | '+' :: _ | '-' :: _ => none
    | _ => if leadingZeroDigits s then none else (digitsValue? 10 rest).bind fits

/-- Reads a negative integer no lower than `-bound`: a `-` then a based or a decimal
number.  Minus zero reads as zero. -/
def readNegative? (bound : Nat) (s : String) : Option Int :=
  let fits (n : Nat) : Option Int := if n ≤ bound then some (-(n : Int)) else none
  match s.toList with
  | '-' :: rest =>
    let based : Option Int :=
      match basePrefix? rest with
      | some (base, ds) => (digitsValue? base ds).bind fits
      | none => none
    match based with
    | some n => some n
    | none => if leadingZeroDigits s then none else (digitsValue? 10 rest).bind fits
  | _ => none

/-- Splits a decimal number into its sign, its digits as one integer, and the power of
ten they are scaled by: `[+-]? digits [. digits] [(e|E) [+-]? digits]`, with a digit
on at least one side of the point. -/
def readDecimal? (s : String) : Option (Bool × Nat × Int) :=
  let (neg, cs) := match s.toList with
    | '-' :: r => (true, r)
    | '+' :: r => (false, r)
    | r => (false, r)
  let (whole, r) := cs.span Char.isDigit
  let (frac, r) := match r with
    | '.' :: r => r.span Char.isDigit
    | r => ([], r)
  if whole.isEmpty && frac.isEmpty then none
  else
    let expPart : Option Int :=
      match r with
      | [] => some 0
      | c :: r =>
        if c != 'e' && c != 'E' then none
        else
          let (eneg, ds) := match r with
            | '-' :: d => (true, d)
            | '+' :: d => (false, d)
            | d => (false, d)
          (digitsValue? 10 ds).map fun e => if eneg then -(e : Int) else e
    expPart.map fun e =>
      let digits := (digitsValue? 10 (whole ++ frac)).getD 0
      (neg, digits, e - frac.length)

/-- The largest binary exponent of a finite binary64 number's mantissa. -/
def maxExp : Int := 971

/-- The binary64 number nearest `digits · 10^e`, or none when it rounds past the
largest finite number.  Magnitudes far outside the range are decided by their number
of digits alone. -/
def nearestReal? (digits : Nat) (e : Int) : Option Binary64 :=
  if digits == 0 then some Binary64.zero
  else
    let d : Int := Binary64.digitCount digits
    if d - 1 + e ≥ 309 then none
    else if d + e ≤ -325 then some Binary64.zero
    else
      let x := if e ≥ 0 then Binary64.ofFrac (digits * Nat.pow 10 e.toNat) 1
        else Binary64.ofFrac digits (Nat.pow 10 (-e).toNat)
      if x.exp > maxExp then none else some x

/-- Reads a number that is finite, or one of the spellings of infinity and
not-a-number.  One `+` may stand before an unsigned number. -/
def readReal? (s : String) : Option Real64 :=
  let unsigned? : Option String :=
    match s.toList with
    | '+' :: '+' :: _ | '+' :: '-' :: _ => none
    | '+' :: r => some (String.ofList r)
    | _ => some s
  match unsigned? with
  | none => none
  | some u =>
    if u == ".inf" || u == ".Inf" || u == ".INF" then some (.infinite false)
    else if s == "-.inf" || s == "-.Inf" || s == "-.INF" then some (.infinite true)
    else if s == ".nan" || s == ".NaN" || s == ".NAN" then some .nan
    else
      match readDecimal? u with
      | some (neg, digits, e) => (nearestReal? digits e).map (.finite neg)
      | none => none

/-- What the text of an integer means: an unsigned 64-bit word, else a negative 64-bit
integer, else an unsigned or a negative 128-bit integer; none when it is not one. -/
def readInteger? (s : String) : Option PlainValue :=
  match readUnsigned? (Nat.pow 2 64) s with
  | some n => some (.word n)
  | none =>
  match readNegative? (Nat.pow 2 63) s with
  | some n => some (.signed n)
  | none =>
  match readUnsigned? (Nat.pow 2 128) s with
  | some n => some (.wide n)
  | none => (readNegative? (Nat.pow 2 127) s).map .wideSigned

/-- What a plain scalar with no tag means. -/
def resolvePlain (s : String) : PlainValue :=
  if s.isEmpty || isNullText s then .null
  else match boolText? s with
  | some b => .bool b
  | none =>
    match readInteger? s with
    | some v => v
    | none =>
    if leadingZeroDigits s then .text
    else match readReal? s with
      | some x => .real x
      | none => .text

/-- How an error describes a plain scalar's value. -/
def PlainValue.describe (s : String) : PlainValue → String
  | .null => "unit value"
  | .bool b => "boolean " ++ "\x60" ++ (if b then "true" else "false") ++ "\x60"
  | .word n => "integer \x60" ++ showNat n ++ "\x60"
  | .signed n => "integer \x60" ++ showInt n ++ "\x60"
  | .wide n => "integer \x60" ++ showNat n ++ "\x60 as u128"
  | .wideSigned n => "integer \x60" ++ showInt n ++ "\x60 as i128"
  | .real x => "floating point \x60" ++ x.render ++ "\x60"
  | .text => "string " ++ Text.quote s

end ChunkProxy.Yaml
