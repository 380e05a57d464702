import ChunkProxy.Text.Blank
import ChunkProxy.Unicode.Alphanumeric
/-!
# Field value patterns

A log filter directive may ask a field for a value.  A value that is not a
number is a regular expression, and the directive only reads when the
expression compiles to a deterministic automaton.  `compiles` decides that.

The syntax is the usual one of such expressions, with these rules on what is
refused:

* parentheses must balance; a group may be a capture (`(a)`), a named capture
  (`(?P<n>a)` or `(?<n>a)`, with a name that starts with a letter or `_`, goes on
  with letters, digits, `_`, `.`, `[` and `]`, and is not used twice), a
  non-capturing group with flags (`(?i:a)`), or flags alone (`(?i)`), which hold
  to the end of the enclosing group.  Look-around groups are refused;
* a flag is one of `i m s U u x R`, may be preceded by one `-`, and may appear
  once; a `-` must be followed by a flag, and `(?)` is refused;
* `*`, `+`, `?` and `{m}`, `{m,}`, `{m,n}` (with `m ≤ n`, both below 2^32) need
  something before them in their group or alternative, other than flags;
* an escape is a digit (refused, as a back reference), `\x` with two hex digits,
  `\u` with four, `\U` with eight, any of these with hex digits in braces (a
  Unicode scalar value), a Perl class (`\d \s \w` and capitals), an assertion
  (`\A \z \b \B \< \>` and the named boundaries `\b\x7bstart\x7d` and the like),
  a control (`\a \f \t \n \r \v`), or any ASCII character that is neither a
  letter, a digit, `<` nor `>`;
* a bracketed class must be closed; it may hold characters, escapes that are
  not assertions, ranges between two characters in order, ASCII classes
  (`[:alpha:]`), nested classes and the set operations `&&`, `--` and `~~`;
* the automaton is built without Unicode's tables, so what needs them is
  refused in Unicode mode (the default): the Perl classes, which stand for
  Unicode's digits, blanks and word characters there, and, in caseless mode
  (`(?i)`), every character and every class, whose other cases would have to be
  looked up.  The Unicode classes of `\p` and `\P` need the tables in every
  mode, and are refused whatever follows them;
* the word boundary assertions cannot be compiled in Unicode mode either,
  since the automaton cannot look at whole characters around it;
* outside Unicode mode (`(?-u)`), where the expression reads bytes, nothing may
  match a byte that is not ASCII, since text is UTF-8: `.`, the negated Perl
  classes, `\x` escapes above `\x7F` and classes that reach such bytes are
  refused, and so are non-ASCII characters in a class;
* the parts of an expression may nest at most 250 deep (`nestLimit`): each
  group, repetition, class, nested class or set operation in a class is a
  level, and so is each sequence of two items or more, each choice between two
  alternatives or more and each class union of two items or more.

In the spaced mode of `(?x)`, blanks and comments from `#` to the end of the
line are passed over between the parts of an expression.  The size of the
automaton is not bounded.
-/

namespace ChunkProxy.Launch.Pattern

set_option autoImplicit false

open Text Unicode

/-- The flags in force that decide whether an expression compiles: Unicode mode,
on unless `(?-u)`, the spaced mode of `(?x)` and the caseless mode of `(?i)`. -/
structure Flags where
  unicode : Bool := true
  spaced : Bool := false
  caseless : Bool := false
  deriving DecidableEq, Repr

mutual

/-- How many characters of blanks and comments start the text, in spaced mode;
none otherwise. -/
def spaceLength (spaced : Bool) : List Char → Nat
  | [] => 0
  | c :: rest =>
    if spaced && isBlank c then spaceLength spaced rest + 1
    else if spaced && c == '#' then commentLength spaced rest + 1
    else 0

/-- How many characters the rest of a comment takes, up to and with its line break,
and the blanks and comments after it. -/
def commentLength (spaced : Bool) : List Char → Nat
  | [] => 0
  | c :: rest => if c == '\n' then spaceLength spaced rest + 1 else commentLength spaced rest + 1

end

/-- Passes over blanks and comments, in spaced mode only. -/
def skipSpace (spaced : Bool) (cs : List Char) : List Char := cs.drop (spaceLength spaced cs)

theorem skipSpace_length_le (spaced : Bool) (cs : List Char) :
    (skipSpace spaced cs).length ≤ cs.length := by
  unfold skipSpace; rw [List.length_drop]; omega

theorem skipSpace_cons_lt (spaced : Bool) (c : Char) (cs : List Char) :
    (skipSpace spaced cs).length < (c :: cs).length := by
  have := skipSpace_length_le spaced cs
  simp only [List.length_cons]; omega

/-- The value of a hexadecimal digit. -/
def hexValue? (c : Char) : Option Nat :=
  if '0' ≤ c ∧ c ≤ '9' then some (c.toNat - '0'.toNat)
  else if 'a' ≤ c ∧ c ≤ 'f' then some (c.toNat - 'a'.toNat + 10)
  else if 'A' ≤ c ∧ c ≤ 'F' then some (c.toNat - 'A'.toNat + 10)
  else none

/-- What an escape stands for. -/
inductive Escape where
  /-- A character; `byte` when written with `\x`, which names a byte outside Unicode mode. -/
  | literal (c : Char) (byte : Bool)
  /-- A class of digits, blanks or word characters; `negated` for the capital forms. -/
  | perl (negated : Bool)
  /-- An assertion; `word` for the word boundaries. -/
  | assertion (word : Bool)
  deriving DecidableEq, Repr

/-- The characters with a meaning of their own. -/
def isMeta (c : Char) : Bool := "\\.+*?()|[]\x7b\x7d^$#&-~".toList.contains c

/-- Whether an escaped character stands for itself: a character with a meaning of
its own, or any ASCII character that is not a letter, a digit, `<` or `>`. -/
def escapesToItself (c : Char) : Bool :=
  isMeta c || (c.toNat < 0x80 && !c.isAlphanum && c != '<' && c != '>')

/-- Reads a fixed number of hex digits, blanks passed over between them in spaced
mode; the value and the rest. -/
def fixedHex (spaced : Bool) : Nat → Nat → List Char → Option (Nat × List Char)
  | 0, acc, cs => some (acc, cs)
  | _ + 1, _, [] => none
  | n + 1, acc, c :: rest =>
    match hexValue? c with
    | some d => fixedHex spaced n (acc * 16 + d) (skipSpace spaced rest)
    | none => none

/-- Reads hex digits up to a closing brace, blanks passed over in spaced mode; the
digits and the rest after the brace. -/
def bracedHex (spaced : Bool) : List Char → List Nat → Option (List Nat × List Char)
  | [], _ => none
  | c :: rest, acc =>
    if c == '\x7d' then some (acc, skipSpace spaced rest)
    else
      match hexValue? c with
      | some d => bracedHex spaced (skipSpace spaced rest) (acc ++ [d])
      | none => none
termination_by cs => cs.length
decreasing_by exact skipSpace_cons_lt spaced c rest

/-- The named word boundaries. -/
def boundaryNames : List String := ["start", "end", "start-half", "end-half"]

/-- Whether a character may stand in the name of a word boundary. -/
def boundaryChar (c : Char) : Bool := ('a' ≤ c ∧ c ≤ 'z') || ('A' ≤ c ∧ c ≤ 'Z') || c == '-'

/-- Reads the letters and dashes of a word boundary's name up to its closing brace:
the name and the rest after the brace. -/
def boundaryWord (spaced : Bool) : List Char → List Char → Option (List Char × List Char)
  | [], _ => none
  | d :: rest, acc =>
    if boundaryChar d then boundaryWord spaced (skipSpace spaced rest) (acc ++ [d])
    else if d == '\x7d' then some (acc, rest)
    else none
termination_by cs => cs.length
decreasing_by exact skipSpace_cons_lt spaced d rest

/-- Reads the name of a word boundary after `\b` and its brace.  When the brace is
not followed by a letter or dash it opens a counted repetition instead, and the
brace is left in place. -/
def boundaryName (spaced : Bool) (afterBrace : List Char) (atBrace : List Char) :
    Option (List Char) :=
  let cs := skipSpace spaced afterBrace
  match cs with
  | [] => none
  | c :: _ =>
    if !boundaryChar c then some atBrace
    else
      match boundaryWord spaced cs [] with
      | some (name, rest) => if boundaryNames.contains (String.ofList name) then some rest else none
      | none => none

/-- Reads an escape after its backslash: what it stands for and the rest. -/
def parseEscape (fl : Flags) : List Char → Option (Escape × List Char)
  | [] => none
  | c :: rest =>
    if c.isDigit then none
    else if c == 'x' || c == 'u' || c == 'U' then
      let digits := if c == 'x' then 2 else if c == 'u' then 4 else 8
      let value : Option (Nat × List Char) :=
        match skipSpace fl.spaced rest with
        | [] => none
        | '\x7b' :: inner =>
          match bracedHex fl.spaced (skipSpace fl.spaced inner) [] with
          | some (ds, r) => if ds.isEmpty then none else some (ds.foldl (fun n d => n * 16 + d) 0, r)
          | none => none
        | ds => fixedHex fl.spaced digits 0 ds
      match value with
      | some (n, r) => if n.isValidChar then some (.literal (Char.ofNat n) (c == 'x'), r) else none
      | none => none
    else if "dswDSW".toList.contains c then some (.perl c.isUpper, rest)
    else if escapesToItself c then some (.literal c false, rest)
    else if c == 'a' then some (.literal (Char.ofNat 7) false, rest)
    else if c == 'f' then some (.literal (Char.ofNat 12) false, rest)
    else if c == 't' then some (.literal '\t' false, rest)
    else if c == 'n' then some (.literal '\n' false, rest)
    else if c == 'r' then some (.literal '\r' false, rest)
    else if c == 'v' then some (.literal (Char.ofNat 11) false, rest)
    else if c == 'A' || c == 'z' then some (.assertion false, rest)
    else if c == 'b' then
      match rest with
      | '\x7b' :: after => (boundaryName fl.spaced after rest).map fun r => (.assertion true, r)
      | _ => some (.assertion true, rest)
    else if c == 'B' || c == '<' || c == '>' then some (.assertion true, rest)
    else none

/-- Which of the bytes from 0x80 to 0xFF a class matches outside Unicode mode. -/
abbrev HighBytes := Nat → Bool

/-- Whether a class matches some byte from 0x80 to 0xFF. -/
def reachesHigh (h : HighBytes) : Bool := (List.range 128).any fun i => h (0x80 + i)

/-- A set operation between the parts of a class. -/
inductive SetOp where
  | intersection
  | difference
  | symmetric
  deriving DecidableEq, Repr

/-- Applies a set operation. -/
def SetOp.apply : SetOp → HighBytes → HighBytes → HighBytes
  | .intersection, a, b => fun x => a x && b x
  | .difference, a, b => fun x => a x && !b x
  | .symmetric, a, b => fun x => a x != b x

/-- The high bytes one class item matches, as an escape or character; none when
the item may not stand in a class.  The Perl classes need Unicode's tables in
Unicode mode. -/
def itemHigh (unicode : Bool) : Escape → Option HighBytes
  | .assertion _ => none
  | .literal c byte =>
    if byte then some (· == c.toNat)
    else if unicode || c.toNat < 0x80 then some fun _ => false
    else none
  | .perl negated => if unicode then none else some fun _ => negated

/-- The high bytes of a range between two class items: both must be characters in
order, and outside Unicode mode a character that is not ASCII must be a byte. -/
def rangeHigh (unicode : Bool) : Escape → Escape → Option HighBytes
  | .literal a byteA, .literal b byteB =>
    if a.toNat > b.toNat then none
    else if !unicode && ((a.toNat ≥ 0x80 && !byteA) || (b.toNat ≥ 0x80 && !byteB)) then none
    else some fun x => a.toNat ≤ x && x ≤ b.toNat
  | _, _ => none

/-- The ASCII class names. -/
def asciiClassNames : List String :=
  ["alnum", "alpha", "ascii", "blank", "cntrl", "digit", "graph", "lower", "print", "punct", "space",
   "upper", "word", "xdigit"]

/-- Reads an ASCII class after its `[`: whether it is negated and the rest after
its `:]`; none when the text is not one. -/
def asciiClass? : List Char → Option (Bool × List Char)
  | ':' :: rest =>
    let (negated, rest) := match rest with
      | '^' :: r => (true, r)
      | r => (false, r)
    let name := rest.takeWhile (· ≠ ':')
    match rest.drop name.length with
    | ':' :: ']' :: after =>
      if asciiClassNames.contains (String.ofList name) then some (negated, after) else none
    | _ => none
  | _ => none

/-- Reads one item of a class: a character or escape, or a range of two, and the
high bytes it matches. -/
def classRange (fl : Flags) (cs : List Char) : Option (List Char × HighBytes) :=
  let prim (cs : List Char) : Option (Escape × List Char) :=
    match cs with
    | [] => none
    | '\\' :: r => parseEscape fl r
    | c :: r => some (.literal c false, r)
  match prim cs with
  | none => none
  | some (first, r) =>
    let r := skipSpace fl.spaced r
    let single := (itemHigh fl.unicode first).map fun h => (r, h)
    match r with
    | [] => none
    | '-' :: after =>
      let after := skipSpace fl.spaced after
      match after with
      | ']' :: _ | '-' :: _ => single
      | _ =>
        match prim after with
        | none => none
        | some (last, r2) => (rangeHigh fl.unicode first last).map fun h => (r2, h)
    | _ => single

/-- Passes over the `-` characters that open a class, each an item standing for
itself: how many there were, and the rest. -/
def leadingDashes (spaced : Bool) : List Char → Nat × List Char
  | '-' :: rest =>
    let (n, r) := leadingDashes spaced (skipSpace spaced rest)
    (n + 1, r)
  | cs => (0, cs)
termination_by cs => cs.length
decreasing_by exact skipSpace_cons_lt spaced '-' rest

/-- What is known of a class, or of a part of one: the high bytes it matches and
how deep its parts nest. -/
structure ClassPart where
  high : HighBytes
  depth : Nat

/-- The items of a class read since its start or its last set operation: the
high bytes they match, how many there are and the deepest of them. -/
structure ClassUnion where
  high : HighBytes := fun _ => false
  items : Nat := 0
  depth : Nat := 0

/-- Adds an item to a union. -/
def ClassUnion.add (u : ClassUnion) (p : ClassPart) : ClassUnion :=
  { high := fun x => u.high x || p.high x, items := u.items + 1, depth := max u.depth p.depth }

/-- A union as a part of its class: a single item stands for itself, while two
items or more nest one level below the union that holds them. -/
def ClassUnion.part (u : ClassUnion) : ClassPart :=
  { high := u.high, depth := if 2 ≤ u.items then u.depth + 1 else u.depth }

/-- Joins the left side of a set operation to its right side, one level above both. -/
def SetOp.join (op : SetOp) (left right : ClassPart) : ClassPart :=
  { high := op.apply left.high right.high, depth := max left.depth right.depth + 1 }

mutual

/-- Reads a bracketed class after its `[`, up to the `]` that closes it: the rest
and the class, one level above what it holds.  Leading `-` and a leading `]`
are characters. -/
def bracket (fl : Flags) : Nat → List Char → Option (List Char × ClassPart)
  | 0, _ => none
  | fuel + 1, cs =>
    let cs := skipSpace fl.spaced cs
    let (negated, cs) := match cs with
      | '^' :: r => (true, skipSpace fl.spaced r)
      | _ => (false, cs)
    let (dashes, cs) := leadingDashes fl.spaced cs
    let (first, cs) := if dashes != 0 then (dashes, cs) else
      match cs with
      | ']' :: r => (1, skipSpace fl.spaced r)
      | _ => (0, cs)
    match classItems fl fuel cs none { items := first } with
    | some (r, p) =>
      some (r, { high := if negated then (fun x => !p.high x) else p.high, depth := p.depth + 1 })
    | none => none

/-- Reads the items of a class up to its `]`: `pending` is the left side of a set
operation and the operation, and `current` the union of the items since. -/
def classItems (fl : Flags) : Nat → List Char → Option (SetOp × ClassPart) → ClassUnion →
    Option (List Char × ClassPart)
  | 0, _, _, _ => none
  | fuel + 1, cs, pending, current =>
    let close (u : ClassUnion) : ClassPart :=
      match pending with
      | some (op, left) => op.join left u.part
      | none => u.part
    match skipSpace fl.spaced cs with
    | [] => none
    | ']' :: r => some (r, close current)
    | '&' :: '&' :: r => classItems fl fuel r (some (.intersection, close current)) {}
    | '-' :: '-' :: r => classItems fl fuel r (some (.difference, close current)) {}
    | '~' :: '~' :: r => classItems fl fuel r (some (.symmetric, close current)) {}
    | '[' :: r =>
      match asciiClass? r with
      | some (negated, r') => classItems fl fuel r' pending (current.add { high := fun _ => negated, depth := 0 })
      | none =>
        match bracket fl fuel r with
        | some (r', p) => classItems fl fuel r' pending (current.add p)
        | none => none
    | cs' =>
      match classRange fl cs' with
      | some (r, h) => classItems fl fuel r pending (current.add { high := h, depth := 0 })
      | none => none

end

/-- Reads the digits of a decimal number, blanks passed over between them in spaced
mode: the digits and the rest. -/
def decimalDigits (spaced : Bool) : List Char → List Char → List Char × List Char
  | [], acc => (acc, [])
  | d :: rest, acc =>
    if d.isDigit then decimalDigits spaced (skipSpace spaced rest) (acc ++ [d]) else (acc, d :: rest)
termination_by cs => cs.length
decreasing_by exact skipSpace_cons_lt spaced d rest

/-- Reads a decimal number of a counted repetition, blanks around it passed over:
the number (none when there are no digits) and the rest; refused when the number
does not fit in 32 bits. -/
def decimal (spaced : Bool) (cs : List Char) : Option (Option Nat × List Char) :=
  let cs := cs.dropWhile isBlank
  let (ds, rest) := decimalDigits spaced cs []
  let rest := rest.dropWhile isBlank
  if ds.isEmpty then some (none, rest)
  else
    let n := ds.foldl (fun n d => n * 10 + (d.toNat - '0'.toNat)) 0
    if n < 4294967296 then some (some n, rest) else none

/-- Reads a counted repetition after its `{`: the rest after its `}` and a `?` that
makes it lazy. -/
def counted (spaced : Bool) (cs : List Char) : Option (List Char) := do
  let cs := skipSpace spaced cs
  guard !cs.isEmpty
  let (low, cs) ← decimal spaced cs
  let cs ← match cs with
    | ',' :: r =>
      let r := skipSpace spaced r
      match r with
      | [] => none
      | '\x7d' :: _ => do let _ ← low; pure r
      | _ => do
        let lo ← low
        let (high, r) ← decimal spaced r
        let hi ← high
        guard (lo ≤ hi)
        pure r
    | r => do let _ ← low; pure r
  match cs with
  | '\x7d' :: r =>
    match skipSpace spaced r with
    | '?' :: r' => some r'
    | r' => some r'
  | _ => none

/-- Whether a character may stand in a group name, as its first character or later. -/
def nameChar (first : Bool) (c : Char) : Bool :=
  if first then c == '_' || isAlphabetic c
  else c == '_' || c == '.' || c == '[' || c == ']' || isAlphanumeric c

/-- Reads a group name after its `<`: the name and the rest after its `>`. -/
def groupName (cs : List Char) : Option (String × List Char) :=
  let name := cs.takeWhile (· ≠ '>')
  match cs.drop name.length with
  | '>' :: rest =>
    match name with
    | [] => none
    | c :: more => if nameChar true c && more.all (nameChar false) then some (String.ofList name, rest) else none
  | _ => none

/-- Reads the flags of a group up to its `:` or `)`: the flags with whether each is
set or cleared, the closing character and the rest.  `negated` says a `-` came, and
`dangling` that it was the last thing read. -/
def groupFlags : List Char → List (Char × Bool) → Bool → Bool → Option (List (Char × Bool) × Char × List Char)
  | [], _, _, _ => none
  | c :: rest, items, negated, dangling =>
    if c == ':' || c == ')' then
      if dangling then none else some (items, c, rest)
    else if c == '-' then
      if negated then none else groupFlags rest items true true
    else if "imsUuxR".toList.contains c then
      if items.any (·.1 == c) then none else groupFlags rest (items ++ [(c, !negated)]) negated false
    else none

/-- The flags in force after a group's flags. -/
def Flags.apply (fl : Flags) (items : List (Char × Bool)) : Flags :=
  items.foldl (fun f (c, on) =>
    if c == 'u' then { f with unicode := on }
    else if c == 'x' then { f with spaced := on }
    else if c == 'i' then { f with caseless := on }
    else f) fl

/-- Whether characters must be matched in all their cases with Unicode's case
tables, which the automaton is built without. -/
def Flags.foldsUnicode (fl : Flags) : Bool := fl.unicode && fl.caseless

/-- How deep the parts of an expression nest, so far as they are read inside the
innermost open group: the items of the alternative being read, the deepest of them
before the last, the depth of the last, the alternatives finished before it and
the deepest of those.  A single item, character or class or group, stands for
itself; a sequence of two items or more, and a choice between two alternatives
or more, each nest one level below the part that holds them. -/
structure Depth where
  items : Nat := 0
  earlier : Nat := 0
  last : Nat := 0
  branches : Nat := 0
  deepest : Nat := 0
  deriving DecidableEq, Repr

/-- One more item, nesting as deep as given. -/
def Depth.push (d : Depth) (n : Nat) : Depth :=
  { d with items := d.items + 1, earlier := max d.earlier d.last, last := n }

/-- The last item repeated: the repetition holds it, one level above it. -/
def Depth.deepen (d : Depth) : Depth := { d with last := d.last + 1 }

/-- How deep the alternative being read nests. -/
def Depth.sequence (d : Depth) : Nat := (if 2 ≤ d.items then 1 else 0) + max d.earlier d.last

/-- A `|`: the alternative being read is finished, and a new one starts. -/
def Depth.alternate (d : Depth) : Depth :=
  { branches := d.branches + 1, deepest := max d.deepest d.sequence }

/-- How deep all that was read nests. -/
def Depth.total (d : Depth) : Nat := (if 1 ≤ d.branches then 1 else 0) + max d.deepest d.sequence

/-- The deepest nesting an expression may have. -/
def nestLimit : Nat := 250

/-- The state of reading an expression: the rest, the flags in force, how deep
what was read nests, the flags and depths of each open group to come back to
when it closes, whether what was read last may be repeated, and the group names
used. -/
structure Scan where
  rest : List Char
  flags : Flags := {}
  depth : Depth := {}
  groups : List (Flags × Depth) := []
  repeatable : Bool := false
  names : List String := []

/-- Whether the rest of an expression reads and compiles; `fuel` bounds the steps,
each of which reads at least one character. -/
def scan : Nat → Scan → Bool
  | 0, _ => false
  | fuel + 1, s =>
    let fl := s.flags
    let item (rest : List Char) (n : Nat) : Bool :=
      scan fuel { s with rest, depth := s.depth.push n, repeatable := true }
    let repeated (rest : List Char) : Bool :=
      s.repeatable && scan fuel { s with rest, depth := s.depth.deepen }
    match skipSpace fl.spaced s.rest with
    | [] => s.groups.isEmpty && s.depth.total ≤ nestLimit
    | c :: r =>
      if c == '(' then
        let r := skipSpace fl.spaced r
        let opened (rest : List Char) (inner : Flags) (names : List String) : Bool :=
          scan fuel { rest, flags := inner, groups := (fl, s.depth) :: s.groups, names }
        match r with
        | '?' :: '=' :: _ | '?' :: '!' :: _ | '?' :: '<' :: '=' :: _ | '?' :: '<' :: '!' :: _ => false
        | '?' :: 'P' :: '<' :: r' | '?' :: '<' :: r' =>
          match groupName r' with
          | some (name, rest) => !s.names.contains name && opened rest fl (name :: s.names)
          | none => false
        | '?' :: r' =>
          match groupFlags r' [] false false with
          | some (items, ')', rest) =>
            !items.isEmpty &&
              scan fuel { s with rest, flags := fl.apply items, depth := s.depth.push 0, repeatable := false }
          | some (items, _, rest) => opened rest (fl.apply items) s.names
          | none => false
        | _ => opened r fl s.names
      else if c == ')' then
        match s.groups with
        | [] => false
        | (outer, d) :: groups =>
          scan fuel { s with rest := r, flags := outer, depth := d.push (s.depth.total + 1), groups,
                             repeatable := true }
      else if c == '|' then scan fuel { s with rest := r, depth := s.depth.alternate, repeatable := false }
      else if c == '[' then
        match bracket fl (2 * r.length + 2) r with
        | some (rest, p) => (fl.unicode || !reachesHigh p.high) && !fl.foldsUnicode && item rest p.depth
        | none => false
      else if c == '?' || c == '*' || c == '+' then
        repeated (match r with
          | '?' :: r' => r'
          | _ => r)
      else if c == '\x7b' then
        match counted fl.spaced r with
        | some rest => repeated rest
        | none => false
      else if c == '\\' then
        match parseEscape fl r with
        | some (e, rest) =>
          let ok := match e with
            | .literal ch byte => (fl.unicode || !byte || ch.toNat < 0x80) && !fl.foldsUnicode
            | .perl negated => !fl.unicode && !negated
            | .assertion word => !(word && fl.unicode)
          ok && item rest 0
        | none => false
      else if c == '.' then fl.unicode && item r 0
      else if c == '^' || c == '$' then item r 0
      else !fl.foldsUnicode && item r 0

/-- Whether an expression compiles. -/
def compiles (pattern : String) : Bool :=
  let cs := pattern.toList
  scan (cs.length + 1) { rest := cs }

end ChunkProxy.Launch.Pattern
