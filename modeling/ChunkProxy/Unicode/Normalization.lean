import ChunkProxy.Unicode.CombiningClass
import ChunkProxy.Unicode.Decomposition
/-!
# Canonical composition (NFC)

Normalization form C puts a text in one canonical spelling: every character is
fully decomposed, the combining marks after each starter are put in order of
their combining class, keeping the order of marks of one class, and then each
mark that is not blocked from the last starter is joined with it whenever they
have a primary composite.  A mark is blocked when a character between them has
a class of zero or at least its own.

The Hangul syllables decompose and compose by arithmetic: a syllable is a
leading consonant, a vowel and an optional trailing consonant, numbered in that
order from U+AC00.
-/

namespace ChunkProxy.Unicode

set_option autoImplicit false

/-- The first Hangul syllable. -/
def syllableBase : Nat := 0xAC00
/-- The first leading consonant. -/
def leadBase : Nat := 0x1100
/-- The first vowel. -/
def vowelBase : Nat := 0x1161
/-- The code point before the first trailing consonant. -/
def trailBase : Nat := 0x11A7
/-- The number of leading consonants. -/
def leadCount : Nat := 19
/-- The number of vowels. -/
def vowelCount : Nat := 21
/-- The number of trailing consonants, counting none. -/
def trailCount : Nat := 28
/-- The number of Hangul syllables. -/
def syllableCount : Nat := leadCount * vowelCount * trailCount

/-- The full canonical decomposition of a code point; `depth` bounds how deep
decompositions nest, which is at most four levels in the table. -/
def decompose (depth n : Nat) : List Nat :=
  if syllableBase ≤ n ∧ n < syllableBase + syllableCount then
    let s := n - syllableBase
    let lead := leadBase + s / (vowelCount * trailCount)
    let vowel := vowelBase + (s % (vowelCount * trailCount)) / trailCount
    let trail := s % trailCount
    if trail == 0 then [lead, vowel] else [lead, vowel, trailBase + trail]
  else
    match depth with
    | 0 => [n]
    | depth + 1 =>
      match decomposition? n with
      | some parts => parts.flatMap (decompose depth)
      | none => [n]

/-- Puts each run of combining marks in order of class, keeping the order of
marks of one class: `marks` holds the run so far. -/
def orderMarks (marks : List Nat) : List Nat → List Nat
  | [] => marks.mergeSort (fun a b => combiningClass a ≤ combiningClass b)
  | n :: rest =>
    if combiningClass n == 0 then
      marks.mergeSort (fun a b => combiningClass a ≤ combiningClass b) ++ n :: orderMarks [] rest
    else orderMarks (marks ++ [n]) rest

/-- The primary composite of two code points, Hangul syllables included. -/
def compose? (first second : Nat) : Option Nat :=
  if leadBase ≤ first ∧ first < leadBase + leadCount ∧ vowelBase ≤ second ∧ second < vowelBase + vowelCount then
    some (syllableBase + ((first - leadBase) * vowelCount + (second - vowelBase)) * trailCount)
  else if syllableBase ≤ first ∧ first < syllableBase + syllableCount ∧ (first - syllableBase) % trailCount == 0 ∧
      trailBase < second ∧ second < trailBase + trailCount then
    some (first + (second - trailBase))
  else composite? first second

/-- The state of canonical composition: the output so far, the position and code
point of the last starter, and the class of the last code point kept. -/
structure Composer where
  out : Array Nat := #[]
  starter : Option (Nat × Nat) := none
  lastClass : Nat := 0

/-- Keeps a code point as it is. -/
def Composer.keep (s : Composer) (n : Nat) : Composer :=
  let cls := combiningClass n
  { out := s.out.push n, starter := if cls == 0 then some (s.out.size, n) else s.starter, lastClass := cls }

/-- Takes the next code point: it joins the last starter when it is not blocked
from it and they have a primary composite. -/
def Composer.step (s : Composer) (n : Nat) : Composer :=
  match s.starter with
  | some (pos, st) =>
    match compose? st n with
    | some k =>
      if s.lastClass == 0 || s.lastClass < combiningClass n then
        { s with out := s.out.setIfInBounds pos k, starter := some (pos, k) }
      else s.keep n
    | none => s.keep n
  | none => s.keep n

/-- Canonical composition of a decomposed, ordered sequence. -/
def composeAll (ns : List Nat) : List Nat :=
  match ns with
  | [] => []
  | n :: rest =>
    let first : Composer := if combiningClass n == 0 then { out := #[n], starter := some (0, n) }
      else { out := #[n], lastClass := 256 }
    (rest.foldl Composer.step first).out.toList

/-- The code points of a text in normalization form C. -/
def nfcCodes (ns : List Nat) : List Nat :=
  composeAll (orderMarks [] (ns.flatMap (decompose 8)))

/-- A text in normalization form C. -/
def nfc (cs : List Char) : List Char :=
  (nfcCodes (cs.map Char.toNat)).map Char.ofNat

/-- Whether a text is already in normalization form C. -/
def isNfc (cs : List Char) : Bool := nfc cs == cs

end ChunkProxy.Unicode
