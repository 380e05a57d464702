import ChunkProxy.Text.Decimal
/-!
# Binary64 numbers

Non-negative double-precision numbers, as a mantissa and a binary exponent,
with the operations a metrics registry performs: conversion of counts,
correctly rounded sums and quotients (to nearest, ties to even), comparison,
and printing.

A number prints as the shortest decimal that reads back as the same number
(the closest such decimal when there are several), written out in full with
no exponent: `0.001`, `2.5`, `10`, `18446744073709552000`.
-/

namespace ChunkProxy

set_option autoImplicit false

/-- A non-negative binary64 number: `mant · 2^exp`, with `2^52 ≤ mant < 2^53` for
normal numbers, a smaller mantissa only at the least exponent, and mantissa zero for
zero. -/
structure Binary64 where
  mant : Nat
  exp : Int
  deriving DecidableEq, Repr

namespace Binary64

/-- The number of mantissa bits. -/
def precision : Nat := 53

/-- The least exponent. -/
def minExp : Int := -1074

/-- Zero. -/
def zero : Binary64 := ⟨0, 0⟩

/-- Two to an integer power, as a fraction. -/
def pow2 (e : Int) : Nat × Nat := if e ≥ 0 then (Nat.pow 2 e.toNat, 1) else (1, Nat.pow 2 (-e).toNat)

/-- The number as a fraction. -/
def toFrac (x : Binary64) : Nat × Nat :=
  let (n, d) := pow2 x.exp
  (x.mant * n, d)

/-- Rounds a quotient of naturals to the nearest integer, ties to even. -/
def roundDiv (n d : Nat) : Nat :=
  let q := n / d
  let r := n % d
  if 2 * r > d then q + 1 else if 2 * r == d then q + q % 2 else q

/-- The binary64 number nearest a fraction `n / d` (`d` positive). -/
def ofFrac (n d : Nat) : Binary64 :=
  if n == 0 || d == 0 then zero
  else
    let k0 : Int := (Nat.log2 n : Int) - Nat.log2 d
    -- the binary exponent of the leading bit: `2^k ≤ n/d < 2^(k+1)`
    let atLeast (k : Int) : Bool := let (a, b) := pow2 k; d * a ≤ n * b
    let k := if atLeast k0 then k0 else k0 - 1
    let e := max (k - (precision - 1 : Nat)) minExp
    let (a, b) := pow2 (-e)
    let m := roundDiv (n * a) (d * b)
    if m == Nat.pow 2 precision then ⟨Nat.pow 2 (precision - 1), e + 1⟩ else ⟨m, e⟩

/-- The binary64 number nearest a natural number. -/
def ofNat (n : Nat) : Binary64 := ofFrac n 1

/-- The correctly rounded sum. -/
def add (x y : Binary64) : Binary64 :=
  let (a, b) := x.toFrac
  let (c, d) := y.toFrac
  ofFrac (a * d + c * b) (b * d)

/-- The correctly rounded quotient. -/
def div (x y : Binary64) : Binary64 :=
  let (a, b) := x.toFrac
  let (c, d) := y.toFrac
  ofFrac (a * d) (b * c)

/-- Whether one number is at most another. -/
def le (x y : Binary64) : Bool :=
  let (a, b) := x.toFrac
  let (c, d) := y.toFrac
  a * d ≤ c * b

/-- Ten to an integer power, as a fraction. -/
def pow10 (e : Int) : Nat × Nat := if e ≥ 0 then (Nat.pow 10 e.toNat, 1) else (1, Nat.pow 10 (-e).toNat)

/-- The number of decimal digits of a positive natural. -/
def digitCount (n : Nat) : Nat := (Nat.toDigits 10 n).length

/-- The decimal exponent `k` with `10^(k-1) ≤ n/d < 10^k`. -/
def decimalExp (n d : Nat) : Int :=
  let k : Int := (digitCount n : Int) - digitCount d
  let (a, b) := pow10 k
  if n * b < a * d then k else k + 1

/-- Drops trailing zeros of a digit string, counting them. -/
def trimZeros (s : String) (p : Int) : String × Int :=
  let cs := s.toList.reverse
  let zeros := (cs.takeWhile (· == '0')).length
  (String.ofList (cs.drop zeros).reverse, p + zeros)

/-- Writes `digits · 10^p` in full. -/
def layout (digits : String) (p : Int) : String :=
  let (s, p) := trimZeros digits p
  let len := s.length
  let point : Int := len + p
  if point ≤ 0 then "0." ++ String.ofList (List.replicate (-point).toNat '0') ++ s
  else if point < len then
    String.ofList (s.toList.take point.toNat) ++ "." ++ String.ofList (s.toList.drop point.toNat)
  else s ++ String.ofList (List.replicate (point.toNat - len) '0')

/-- The shortest decimal `c · 10^p` inside the rounding interval of a positive number,
trying `n` significant digits from `n = 1`; the closer of the two candidates around
the number wins. -/
def shortestDigits (x : Binary64) : Nat × Int :=
  let (vn, vd) := x.toFrac
  -- work in units of a quarter of the gap above the number
  let unitExp := x.exp - 2
  let v := 4 * x.mant
  let lowHalf := if x.mant == Nat.pow 2 (precision - 1) && x.exp > minExp then 1 else 2
  let lo := v - lowHalf
  let hi := v + 2
  let inclusive := x.mant % 2 == 0
  let (un, ud) := pow2 unitExp
  -- compare `c · 10^p` with `u` units: the sign of the difference
  let cmp (c : Nat) (p : Int) (u : Nat) : Ordering :=
    let (tn, td) := pow10 p
    compare (c * tn * ud) (u * un * td)
  let inside (c : Nat) (p : Int) : Bool :=
    match cmp c p lo, cmp c p hi with
    | .gt, .lt => true
    | .eq, .lt => inclusive
    | .gt, .eq => inclusive
    | _, _ => false
  let k := decimalExp vn vd
  let tryDigits (n : Nat) : Option (Nat × Int) :=
    let p : Int := k - n
    let (tn, td) := pow10 p
    -- `c ≤ v / 10^p < c + 1`
    let c := (vn * td) / (vd * tn)
    match inside c p, inside (c + 1) p with
    | true, true =>
      -- distances to the number, times a common denominator
      let dBelow := vn * td - c * vd * tn
      let dAbove := (c + 1) * vd * tn - vn * td
      if dBelow < dAbove then some (c, p)
      else if dAbove < dBelow then some (c + 1, p)
      else if c % 2 == 0 then some (c, p) else some (c + 1, p)
    | true, false => some (c, p)
    | false, true => some (c + 1, p)
    | false, false => none
  match (List.range 17).findSome? (fun i => tryDigits (i + 1)) with
  | some r => r
  | none =>
    let p : Int := k - 17
    let (tn, td) := pow10 p
    (roundDiv (vn * td) (vd * tn), p)

/-- The shortest decimal that reads back as the number, written in full. -/
def render (x : Binary64) : String :=
  if x.mant == 0 then "0"
  else
    let (c, p) := x.shortestDigits
    layout (showNat c) p

end Binary64

end ChunkProxy
