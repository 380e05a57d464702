import ChunkProxy.Url.Punycode
import ChunkProxy.Unicode.IdnaMapping
import ChunkProxy.Unicode.Normalization
import ChunkProxy.Unicode.BidiClass
import ChunkProxy.Unicode.JoiningType
import ChunkProxy.Unicode.Mark
/-!
# Domain names to ASCII

A domain in a URL with a special scheme is put in ASCII form by the
nontransitional processing of Unicode IDNA compatibility processing, with the
joiner and bidirectional checks on and the hyphen and length checks off.

1. Each code point is mapped by its status (`idnaStatus`): kept, replaced,
   dropped, or refused.
2. The result is put in normalization form C and split into labels at full
   stops.
3. A label that starts with `xn--` must be ASCII, and the rest must decode as
   Punycode to a label that is not empty, not all ASCII, already in normalization
   form C, and made of valid code points only.  Every label, in its Unicode form,
   must not start with a mark, and may hold a joiner only where the joiner rules
   allow it.
4. When some label holds a right-to-left letter or an Arabic digit, every label
   must follow the bidirectional rules.
5. A label with non-ASCII code points is written `xn--` followed by its
   Punycode, and must then be at most 1000 code points long; the others stay as they are.

Any failure refuses the whole domain.
-/

namespace ChunkProxy.Url.Idna

set_option autoImplicit false

open Unicode

/-- Maps every code point; `none` when one is disallowed. -/
def mapAll : List Char → Option (List Char)
  | [] => some []
  | c :: rest =>
    match idnaStatus c, mapAll rest with
    | _, none => none
    | .valid, some r => some (c :: r)
    | .mapped into, some r => some (into.map Char.ofNat ++ r)
    | .ignored, some r => some r
    | .disallowed, some _ => none

/-- The zero width non-joiner. -/
def nonJoiner : Char := Char.ofNat 0x200C

/-- The zero width joiner. -/
def joiner : Char := Char.ofNat 0x200D

/-- Whether the first character that is not transparent, in the order given, has
one of the joining types `wanted`. -/
def joinsOn (wanted : List JoiningType) (cs : List Char) : Bool :=
  match cs.dropWhile (fun c => joiningType c == .transparent) with
  | c :: _ => wanted.contains (joiningType c)
  | [] => false

/-- Whether the joiners of a label stand where they may, given the characters
before the current one (nearest first) and those from it on.  A joiner may follow
a virama; a non-joiner may also stand between a letter that joins on the left and
one that joins on the right, with transparent characters around it. -/
def joinersAllowed (before : List Char) : List Char → Bool
  | [] => true
  | c :: after =>
    let ok :=
      if c == nonJoiner || c == joiner then
        (before.head?.map (fun b => isVirama b.toNat)).getD false ||
          (c == nonJoiner && joinsOn [.left, .dual] before && joinsOn [.right, .dual] after)
      else true
    ok && joinersAllowed (c :: before) after

/-- The bidirectional classes that make a domain subject to the bidirectional rules. -/
def isRightToLeftish (c : Char) : Bool :=
  [BidiClass.rightToLeft, .arabicLetter, .arabicNumber].contains (bidiClass c)

/-- The last character that is not a nonspacing mark. -/
def lastNonMark (cs : List Char) : Option Char :=
  (cs.reverse.dropWhile (fun c => bidiClass c == .nonspacingMark)).head?

/-- Whether a label follows the bidirectional rules.  A left-to-right label starts
with a left-to-right letter, holds only left-to-right letters, European digits
and neutral classes, and ends, before its trailing marks, in a letter or a
European digit.  A right-to-left label starts with a right-to-left or Arabic
letter, holds no left-to-right letter, does not mix European and Arabic digits,
and ends, before its trailing marks, in a right-to-left letter or a digit. -/
def bidiAllowed (label : List Char) : Bool :=
  match label with
  | [] => true
  | c :: rest =>
    match bidiClass c with
    | .leftToRight =>
      rest.all (fun d => [BidiClass.leftToRight, .europeanNumber, .europeanSeparator, .commonSeparator,
        .europeanTerminator, .otherNeutral, .boundaryNeutral, .nonspacingMark].contains (bidiClass d)) &&
      ((lastNonMark label).map fun d => [BidiClass.leftToRight, .europeanNumber].contains (bidiClass d)).getD true
    | .rightToLeft | .arabicLetter =>
      rest.all (fun d => [BidiClass.rightToLeft, .arabicLetter, .arabicNumber, .europeanNumber,
        .europeanSeparator, .commonSeparator, .europeanTerminator, .otherNeutral, .boundaryNeutral,
        .nonspacingMark].contains (bidiClass d)) &&
      ((lastNonMark label).map fun d => [BidiClass.rightToLeft, .arabicLetter, .europeanNumber,
        .arabicNumber].contains (bidiClass d)).getD false &&
      !(rest.any (fun d => bidiClass d == .europeanNumber) && rest.any (fun d => bidiClass d == .arabicNumber))
    | _ => false

/-- Whether a label in Unicode form meets the checks every label meets: it does not
start with a mark, and its joiners stand where they may. -/
def labelAllowed (label : List Char) : Bool :=
  !((label.head?.map isMark).getD false) && joinersAllowed [] label

/-- Whether a code point may stand in a label as it is. -/
def isValid (c : Char) : Bool := idnaStatus c == .valid

/-- The Unicode form of a mapped label: a label that starts with `xn--` is decoded
and must be a label that mapping would have left alone. -/
def unicodeForm (label : List Char) : Option (List Char) :=
  if label.take 4 == ['x', 'n', '-', '-'] then
    if label.any (·.toNat ≥ 0x80) then none
    else
      match Punycode.decode (String.ofList (label.drop 4)) with
      | some decoded =>
        let d := decoded.toList
        if d.isEmpty || d.all (·.toNat < 0x80) || !isNfc d || !d.all isValid then none
        else some d
      | none => none
  else some label

/-- The ASCII form of a label whose Unicode form is allowed; `none` when the label
needs Punycode and is longer than `Punycode.maxEncodeLength`. -/
def asciiForm (label : List Char) : Option String :=
  if label.all (·.toNat < 0x80) then some (String.ofList label)
  else if label.length > Punycode.maxEncodeLength then none
  else some ("xn--" ++ Punycode.encode label)

/-- Maps a domain to ASCII; `none` when it is refused. A label that comes as `xn--` is
kept as it is, but its Unicode form is held to the same length bound as one that
needs encoding. -/
def toAscii (domain : String) : Option String := do
  let mapped ← mapAll domain.toList
  let labels := (nfc mapped).splitOn '.'
  let forms ← labels.mapM unicodeForm
  guard (forms.all labelAllowed)
  guard (!(forms.any (·.any isRightToLeftish)) || forms.all bidiAllowed)
  let ascii ← (labels.zip forms).mapM fun (l, u) =>
    if l.take 4 == ['x', 'n', '-', '-'] then
      if u.length > Punycode.maxEncodeLength then none else some (String.ofList l)
    else asciiForm u
  pure (".".intercalate ascii)

end ChunkProxy.Url.Idna
