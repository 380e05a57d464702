/-!
# Punycode

The Bootstring encoding of RFC 3492 with the parameters of IDNA: base 36,
`tmin` 1, `tmax` 26, skew 38, damp 700, initial bias 72 and initial code point
128.  The ASCII characters of a label are copied first, followed by `-` when
there are any; then each non-ASCII code point, in increasing order, is written
as the distance from the previous insertion state as a variable-length number
whose digit thresholds follow an adaptive bias.

Every loop here has a measure: `adaptLoop` divides its value by 35,
`writeNumber` shrinks its number, `encodeFrom` consumes the sorted code points
and the decoding loops consume their input.
-/

namespace ChunkProxy.Url.Punycode

set_option autoImplicit false

/-- The character of a digit value: `a` to `z` for 0 to 25, `0` to `9` for 26 to 35. -/
def digitChar (d : Nat) : Char :=
  if d < 26 then Char.ofNat ('a'.toNat + d) else Char.ofNat ('0'.toNat + d - 26)

/-- The value of a digit character of either case. -/
def digitValue? (c : Char) : Option Nat :=
  if 'a' ≤ c ∧ c ≤ 'z' then some (c.toNat - 'a'.toNat)
  else if 'A' ≤ c ∧ c ≤ 'Z' then some (c.toNat - 'A'.toNat)
  else if '0' ≤ c ∧ c ≤ '9' then some (c.toNat - '0'.toNat + 26)
  else none

/-- The threshold of the digit at position `k` for a bias. -/
def threshold (k bias : Nat) : Nat :=
  if k ≤ bias then 1 else if k ≥ bias + 26 then 26 else k - bias

theorem threshold_pos (k bias : Nat) : 1 ≤ threshold k bias := by
  unfold threshold; split <;> (try split) <;> omega

theorem threshold_le (k bias : Nat) : threshold k bias ≤ 26 := by
  unfold threshold; split <;> (try split) <;> omega

/-- Divides a large delta by 35 until it is small, counting steps of 36. -/
def adaptLoop (delta k : Nat) : Nat × Nat :=
  if delta > 455 then adaptLoop (delta / 35) (k + 36) else (delta, k)
termination_by delta
decreasing_by omega

/-- The bias after a code point has been written. -/
def adapt (delta count : Nat) (first : Bool) : Nat :=
  let d := if first then delta / 700 else delta / 2
  let d := d + d / count
  let (d, k) := adaptLoop d 0
  k + 36 * d / (d + 38)

/-- Writes a number as variable-length digits from position `k`. -/
def writeNumber (bias k q : Nat) : List Char :=
  let t := threshold k bias
  if h : q < t then [digitChar q]
  else digitChar (t + (q - t) % (36 - t)) :: writeNumber bias (k + 36) ((q - t) / (36 - t))
termination_by q
decreasing_by
  have h1 := threshold_pos k bias
  have h2 := threshold_le k bias
  have : (q - threshold k bias) / (36 - threshold k bias) ≤ q - threshold k bias :=
    Nat.div_le_self _ _
  omega

/-- The state of encoding: output so far, delta, bias and count of handled code points. -/
structure Encoder where
  out : List Char
  delta : Nat
  bias : Nat
  handled : Nat

/-- Passes one input code point while inserting the code point `m`. -/
def passOne (basicCount m : Nat) (e : Encoder) (c : Char) : Encoder :=
  if c.toNat < m then { e with delta := e.delta + 1 }
  else if c.toNat == m then
    { out := e.out ++ writeNumber e.bias 36 e.delta
      delta := 0
      bias := adapt e.delta (e.handled + 1) (e.handled == basicCount)
      handled := e.handled + 1 }
  else e

/-- Inserts the sorted distinct non-ASCII code points one after another. -/
def encodeFrom (input : List Char) (basicCount : Nat) : List Nat → Nat → Encoder → Encoder
  | [], _, e => e
  | m :: rest, n, e =>
    let e := { e with delta := e.delta + (m - n) * (e.handled + 1) }
    let e := input.foldl (passOne basicCount m) e
    encodeFrom input basicCount rest (m + 1) { e with delta := e.delta + 1 }

/-- Inserts a number into a sorted list without duplicates. -/
def insertSorted (x : Nat) : List Nat → List Nat
  | [] => [x]
  | y :: ys => if x < y then x :: y :: ys else if x == y then y :: ys else y :: insertSorted x ys

/-- Encodes a label (without the `xn--` prefix). -/
def encode (input : List Char) : String :=
  let basic := input.filter (·.toNat < 0x80)
  let others := (input.filter (·.toNat ≥ 0x80)).foldr (fun c acc => insertSorted c.toNat acc) []
  let e := encodeFrom input basic.length others 128
    { out := [], delta := 0, bias := 72, handled := basic.length }
  String.ofList (basic ++ (if basic.isEmpty then [] else ['-']) ++ e.out)

/-- The bound of the unsigned 32-bit arithmetic decoding is done in: a number that
reaches it makes the label invalid. -/
def wordBound : Nat := 4294967296

/-- The longest label that is decoded, in bytes. -/
def maxDecodeLength : Nat := 2000

/-- The longest label that is encoded, in code points. -/
def maxEncodeLength : Nat := 1000

/-- Reads one variable-length number; returns the new `i` and the rest.  The sum
and the weight must stay below `wordBound`. -/
def readNumber (bias : Nat) : List Char → Nat → Nat → Nat → Option (Nat × List Char)
  | [], _, _, _ => none
  | c :: rest, k, w, i =>
    match digitValue? c with
    | none => none
    | some d =>
      let i := i + d * w
      let t := threshold k bias
      if i ≥ wordBound then none
      else if d < t then some (i, rest)
      else if w * (36 - t) ≥ wordBound then none
      else readNumber bias rest (k + 36) (w * (36 - t)) i

theorem readNumber_shorter (bias : Nat) :
    ∀ (cs : List Char) (k w i : Nat) (r : Nat × List Char),
      readNumber bias cs k w i = some r → r.2.length < cs.length
  | [], _, _, _, _, h => by simp [readNumber] at h
  | c :: rest, k, w, i, r, h => by
    simp only [readNumber] at h
    split at h
    · cases h
    · split at h
      · cases h
      · split at h
        · cases h; simp
        · split at h
          · cases h
          · have := readNumber_shorter bias rest _ _ _ r h
            simp only [List.length_cons]; omega

/-- Inserts the decoded code points into the basic ones. -/
def decodeFrom (cs : List Char) (out : List Nat) (n i bias : Nat) : Option (List Nat) :=
  if cs.isEmpty then some out
  else
    match h : readNumber bias cs 36 1 i with
    | none => none
    | some (i', rest) =>
      let count := out.length + 1
      let bias' := adapt (i' - i) count (i == 0)
      let n' := n + i' / count
      let pos := i' % count
      if n' > 0x10FFFF then none
      else
        have : rest.length < cs.length := readNumber_shorter bias cs 36 1 i (i', rest) h
        decodeFrom rest (out.take pos ++ [n'] ++ out.drop pos) n' (pos + 1) bias'
termination_by cs.length

/-- Decodes a label (without the `xn--` prefix); `none` when it is not valid Punycode
or is longer than `maxDecodeLength`.  The basic code points stand before the last
`-`; when that `-` is the first character there are none, and the `-` itself is
read as a digit, which it is not. -/
def decode (label : String) : Option String :=
  let cs := label.toList
  let (basic, ext) :=
    if cs.contains '-' then
      let idx := cs.length - 1 - (cs.reverse.takeWhile (· ≠ '-')).length
      (cs.take idx, if idx > 0 then cs.drop (idx + 1) else cs)
    else ([], cs)
  if label.utf8ByteSize > maxDecodeLength || basic.any (·.toNat ≥ 0x80) then none
  else
    match decodeFrom ext (basic.map Char.toNat) 128 0 72 with
    | none => none
    | some cps =>
      if cps.any (fun n => 0xD800 ≤ n ∧ n ≤ 0xDFFF) then none
      else some (String.ofList (cps.map Char.ofNat))

end ChunkProxy.Url.Punycode
