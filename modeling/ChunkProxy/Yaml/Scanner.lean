import ChunkProxy.Text.Decimal
/-!
# YAML tokens

The scanner turns YAML text into tokens: stream and document markers, block
and flow collection indicators, keys and values, anchors, aliases, tags and
scalars, each with the position where it starts.

Block structure comes from indentation.  Each column a block collection opens
at is remembered; when a line starts left of it the collection ends.  A plain
or quoted scalar, an alias or a flow collection may turn out to be the key of
a mapping: its position is remembered as a possible simple key, and when a
`:` follows on the same line the KEY token (and, in block context, the start
of a mapping) is inserted before it.  A possible key that must be a key (it
stands at the indentation of its block mapping) and is not followed by `:`
on its line, or that starts more than 1024 bytes back, is an error.

Directives (`%YAML major.minor`, `%TAG handle prefix`) fill a line of their own.
A tag is a handle and a suffix; `%XX` escapes in the suffix stand for the bytes
of one UTF-8 sequence each.

Scalars are read with the folding rules of their style: in plain and quoted
scalars a single line break becomes a space and further breaks are kept;
literal block scalars keep their breaks and folded ones fold lines that do
not start with a blank.  Double-quoted scalars decode backslash escapes.

Errors name the problem, where it was found, and what was being read from
where, in the words of the reference YAML library.  A character that may not
appear in YAML text is found when the chunk of text holding it is read, before the
scan goes on; after a scan error a reader gets only the tokens no possible simple
key holds back.  Every loop is bounded by fuel derived from the length of the text,
and each step consumes text.
-/

namespace ChunkProxy.Yaml

set_option autoImplicit false

/-- A position in the text: characters before it, its line and its column, from zero,
and the bytes of UTF-8 before it. -/
structure Mark where
  index : Nat := 0
  line : Nat := 0
  column : Nat := 0
  offset : Nat := 0
  deriving DecidableEq, Repr, Inhabited

/-- A position as people count: `line L column C`, from one. -/
def Mark.render (m : Mark) : String :=
  "line " ++ showNat (m.line + 1) ++ " column " ++ showNat (m.column + 1)

/-- Whether a position is the very start of the text. -/
def Mark.isStart (m : Mark) : Bool := m.line == 0 && m.column == 0

/-- A syntax error: the problem and where it was found, and what was being read and
from where. -/
structure SyntaxError where
  problem : String
  mark : Mark
  context : Option (String × Mark) := none
  offset : Nat := 0
  deriving DecidableEq, Repr, Inhabited

/-- The text of a syntax error; positions at the very start are left out (a byte
offset stands in for them when there is one), and the context's position only when it
differs from the problem's. -/
def SyntaxError.render (e : SyntaxError) : String :=
  let place :=
    if !e.mark.isStart then " at " ++ e.mark.render
    else if e.offset != 0 then " at position " ++ showNat e.offset
    else ""
  let s := e.problem ++ place
  match e.context with
  | none => s
  | some (c, m) =>
    s ++ ", " ++ c ++
      (if !m.isStart && (m.line != e.mark.line || m.column != e.mark.column) then " at " ++ m.render
       else "")

/-- How a scalar was written. -/
inductive ScalarStyle where
  | plain
  | single
  | double
  | literal
  | folded
  deriving DecidableEq, Repr, Inhabited

/-- The kinds of token. -/
inductive TokenKind where
  | streamStart
  | streamEnd
  | documentStart
  | documentEnd
  | blockSequenceStart
  | blockMappingStart
  | blockEnd
  | flowSequenceStart
  | flowSequenceEnd
  | flowMappingStart
  | flowMappingEnd
  | blockEntry
  | flowEntry
  | key
  | value
  | alias (name : String)
  | anchor (name : String)
  /-- A tag: its handle, and its suffix as bytes (escapes decoded). -/
  | tag (handle : String) (suffix : List UInt8)
  /-- A `%YAML` directive with its version. -/
  | versionDirective (major minor : Nat)
  /-- A `%TAG` directive: a handle and the prefix it stands for. -/
  | tagDirective (handle : String) (uriStart : List UInt8)
  | scalar (value : String) (style : ScalarStyle)
  deriving DecidableEq, Repr, Inhabited

/-- A token and where it starts and ends. -/
structure Token where
  kind : TokenKind
  start : Mark
  stop : Mark
  deriving DecidableEq, Repr, Inhabited

/-- A place where a simple key may start. -/
structure SimpleKey where
  possible : Bool := false
  required : Bool := false
  tokenNumber : Nat := 0
  mark : Mark := {}
  deriving DecidableEq, Repr, Inhabited

/-- The scanner: the text, the position, the tokens so far, the flow depth, the block
indentation stack, and the possible simple key of each flow level (innermost first). -/
structure Scanner where
  text : Array Char
  mark : Mark := {}
  tokens : Array Token := #[]
  flowLevel : Nat := 0
  indent : Int := -1
  indents : List Int := []
  allowSimpleKey : Bool := true
  keys : List SimpleKey := [{}]
  done : Bool := false
  deriving Repr, Inhabited

/-- Whether a character ends a line. -/
def isBreak (c : Char) : Bool :=
  c == '\n' || c == '\r' || c.toNat == 0x85 || c.toNat == 0x2028 || c.toNat == 0x2029

/-- Whether a character is a space or a tab. -/
def isBlank (c : Char) : Bool := c == ' ' || c == '\t'

/-- Whether a character may stand in an anchor's name. -/
def isNameChar (c : Char) : Bool := c.isAlphanum || c == '_' || c == '-'

/-- Whether a character may stand in a tag. -/
def isUriChar (c : Char) : Bool :=
  c.isAlphanum || "_-;/?:@&=+$.%!~*()".toList.contains c || c.toNat == 0x27

/-- The value of a hexadecimal digit. -/
def hexValue? (c : Char) : Option Nat :=
  if '0' ≤ c && c ≤ '9' then some (c.toNat - '0'.toNat)
  else if 'a' ≤ c && c ≤ 'f' then some (c.toNat - 'a'.toNat + 10)
  else if 'A' ≤ c && c ≤ 'F' then some (c.toNat - 'A'.toNat + 10)
  else none

namespace Scanner

/-- The character `k` places ahead. -/
def peekAt (s : Scanner) (k : Nat) : Option Char := s.text[s.mark.index + k]?

/-- Whether the character `k` places ahead is `c`. -/
def isAt (s : Scanner) (k : Nat) (c : Char) : Bool := s.peekAt k == some c

/-- Whether the text ends `k` places ahead. -/
def endAt (s : Scanner) (k : Nat) : Bool := (s.peekAt k).isNone

/-- Whether a blank stands `k` places ahead. -/
def blankAt (s : Scanner) (k : Nat) : Bool := (s.peekAt k).any isBlank

/-- Whether a line break stands `k` places ahead. -/
def breakAt (s : Scanner) (k : Nat) : Bool := (s.peekAt k).any isBreak

/-- Whether a blank, a line break or the end stands `k` places ahead. -/
def blankZAt (s : Scanner) (k : Nat) : Bool :=
  match s.peekAt k with
  | some c => isBlank c || isBreak c
  | none => true

/-- Whether a document marker (`---` or `...` then a blank) starts here, at column zero. -/
def atDocumentMarker (s : Scanner) : Bool :=
  s.mark.column == 0 && s.blankZAt 3 &&
    ((s.isAt 0 '-' && s.isAt 1 '-' && s.isAt 2 '-') || (s.isAt 0 '.' && s.isAt 1 '.' && s.isAt 2 '.'))

/-- The bytes of UTF-8 the next `n` characters take. -/
def widthAt (s : Scanner) (n : Nat) : Nat :=
  (List.range n).foldl (fun acc k => acc + ((s.peekAt k).map Char.utf8Size).getD 0) 0

/-- Moves past one character of a line. -/
def skip (s : Scanner) : Scanner :=
  { s with mark := { index := s.mark.index + 1, line := s.mark.line, column := s.mark.column + 1,
                     offset := s.mark.offset + s.widthAt 1 } }

/-- Moves past a line break (two characters for CR LF) and returns it as read: CR LF,
CR, LF and NEL read as LF; the line and paragraph separators as themselves. -/
def readBreak (s : Scanner) : Scanner × String :=
  let next (n : Nat) : Scanner :=
    { s with mark := { index := s.mark.index + n, line := s.mark.line + 1, column := 0,
                       offset := s.mark.offset + s.widthAt n } }
  if s.isAt 0 '\r' && s.isAt 1 '\n' then (next 2, "\n")
  else
    match s.peekAt 0 with
    | some c =>
      if c == '\r' || c == '\n' || c.toNat == 0x85 then (next 1, "\n")
      else if isBreak c then (next 1, String.singleton c)
      else (s, "")
    | none => (s, "")

/-- Fuel for a loop over the rest of the text. -/
def fuel (s : Scanner) : Nat := s.text.size - s.mark.index + 2

/-- Appends a token. -/
def emit (s : Scanner) (kind : TokenKind) (start stop : Mark) : Scanner :=
  { s with tokens := s.tokens.push ⟨kind, start, stop⟩ }

/-- Inserts a token at a position of the token list. -/
def insertAt (s : Scanner) (i : Nat) (t : Token) : Scanner :=
  { s with tokens := (s.tokens.extract 0 i).push t ++ s.tokens.extract i s.tokens.size }

/-- An error while scanning. -/
def fail {α : Type} (problem : String) (mark : Mark) (context : Option (String × Mark) := none) :
    Except SyntaxError α :=
  .error { problem, mark, context }

/-- The possible simple key of the innermost flow level. -/
def topKey (s : Scanner) : SimpleKey := s.keys.headD {}

/-- Replaces the possible simple key of the innermost flow level. -/
def setTopKey (s : Scanner) (k : SimpleKey) : Scanner :=
  { s with keys := k :: s.keys.tail }

/-- Forgets possible simple keys that can no longer be keys: they are on an earlier
line or more than 1024 bytes back.  A required one is an error. -/
def staleKeys (s : Scanner) : Except SyntaxError Scanner := do
  let keys ← s.keys.mapM fun k =>
    if k.possible && (k.mark.line < s.mark.line || k.mark.offset + 1024 < s.mark.offset) then
      if k.required then
        fail "could not find expected \x27:\x27" s.mark (some ("while scanning a simple key", k.mark))
      else pure { k with possible := false }
    else pure k
  pure { s with keys }

/-- Drops the possible simple key of the innermost level; a required one is an error. -/
def removeKey (s : Scanner) : Except SyntaxError Scanner := do
  let k := s.topKey
  if k.possible && k.required then
    fail "could not find expected \x27:\x27" s.mark (some ("while scanning a simple key", k.mark))
  pure (s.setTopKey { k with possible := false })

/-- Remembers that a simple key may start here. -/
def saveKey (s : Scanner) : Except SyntaxError Scanner := do
  let required := s.flowLevel == 0 && s.indent == (s.mark.column : Int)
  if s.allowSimpleKey then
    let s ← s.removeKey
    pure (s.setTopKey ⟨true, required, s.tokens.size, s.mark⟩)
  else pure s

/-- Opens a block collection at a column if it is right of the present indentation;
the start token goes at `number` (or at the end). -/
def rollIndent (s : Scanner) (column : Nat) (number : Option Nat) (kind : TokenKind) (mark : Mark) :
    Scanner :=
  if s.flowLevel > 0 then s
  else if s.indent < (column : Int) then
    let s := { s with indents := s.indent :: s.indents, indent := column }
    let t : Token := ⟨kind, mark, mark⟩
    match number with
    | some i => s.insertAt i t
    | none => { s with tokens := s.tokens.push t }
  else s

/-- Closes the block collections that open right of a column. -/
def unrollIndent (s : Scanner) (column : Int) : Scanner :=
  if s.flowLevel > 0 then s
  else
    let rec go : Nat → Scanner → Scanner
      | 0, s => s
      | n + 1, s =>
        if s.indent > column then
          go n { (s.emit .blockEnd s.mark s.mark) with
                 indent := s.indents.headD (-1), indents := s.indents.tail }
        else s
    go (s.indents.length + 1) s

/-- Skips blanks, comments and line breaks up to the next token.  Tabs are skipped only
where a simple key may not start or inside flow collections. -/
def skipToToken (s : Scanner) : Scanner :=
  let rec blanks : Nat → Scanner → Scanner
    | 0, s => s
    | n + 1, s =>
      if s.isAt 0 ' ' || ((s.flowLevel > 0 || !s.allowSimpleKey) && s.isAt 0 '\t') then blanks n s.skip
      else s
  let rec comment : Nat → Scanner → Scanner
    | 0, s => s
    | n + 1, s => if s.breakAt 0 || s.endAt 0 then s else comment n s.skip
  let rec go : Nat → Scanner → Scanner
    | 0, s => s
    | n + 1, s =>
      let s := if s.mark.column == 0 && s.isAt 0 (Char.ofNat 0xFEFF) then s.skip else s
      let s := blanks s.fuel s
      let s := if s.isAt 0 '#' then comment s.fuel s else s
      if s.breakAt 0 then
        let s := s.readBreak.1
        go n (if s.flowLevel == 0 then { s with allowSimpleKey := true } else s)
      else s
  go s.fuel s

/-- The folding state of a scalar being read: its text, the first line break of the
present run of breaks, the further breaks, the pending blanks, and whether the run
started with a break. -/
structure Folding where
  text : String := ""
  leadingBreak : String := ""
  trailingBreaks : String := ""
  whitespaces : String := ""
  leadingBlanks : Bool := false
  deriving Repr, Inhabited

/-- Puts the pending blanks or breaks into the text: a single LF becomes a space, further
breaks are kept; other breaks are kept as they are. -/
def Folding.join (f : Folding) : Folding :=
  if f.leadingBlanks then
    if f.leadingBreak.startsWith "\n" then
      if f.trailingBreaks.isEmpty then
        { f with text := f.text.push ' ', leadingBreak := "", leadingBlanks := false }
      else
        { f with text := f.text ++ f.trailingBreaks, trailingBreaks := "", leadingBreak := "",
                 leadingBlanks := false }
    else
      { f with text := f.text ++ f.leadingBreak ++ f.trailingBreaks, leadingBreak := "",
               trailingBreaks := "", leadingBlanks := false }
  else { f with text := f.text ++ f.whitespaces, whitespaces := "" }

/-- Reads the blanks and line breaks after a run of a scalar's characters. -/
def readBlanks (tabCheck : Option (Int × Mark)) : Nat → Scanner → Folding →
    Except SyntaxError (Scanner × Folding)
  | 0, s, f => pure (s, f)
  | n + 1, s, f =>
    match s.peekAt 0 with
    | some c =>
      if isBlank c then
        match tabCheck with
        | some (indent, start) =>
          if f.leadingBlanks && (s.mark.column : Int) < indent && c == '\t' then
            fail "found a tab character that violates indentation" s.mark
              (some ("while scanning a plain scalar", start))
          else if f.leadingBlanks then readBlanks tabCheck n s.skip f
          else readBlanks tabCheck n s.skip { f with whitespaces := f.whitespaces.push c }
        | none =>
          if f.leadingBlanks then readBlanks tabCheck n s.skip f
          else readBlanks tabCheck n s.skip { f with whitespaces := f.whitespaces.push c }
      else if isBreak c then
        let (s, br) := s.readBreak
        if f.leadingBlanks then readBlanks tabCheck n s { f with trailingBreaks := f.trailingBreaks ++ br }
        else readBlanks tabCheck n s { f with whitespaces := "", leadingBreak := br, leadingBlanks := true }
      else pure (s, f)
    | none => pure (s, f)

/-- Reads the characters of one run of a plain scalar; returns the position after the
last character read. -/
def plainRun (start : Mark) : Nat → Scanner → Folding → Mark →
    Except SyntaxError (Scanner × Folding × Mark)
  | 0, s, f, m => pure (s, f, m)
  | n + 1, s, f, m =>
    match s.peekAt 0 with
    | none => pure (s, f, m)
    | some c =>
      if isBlank c || isBreak c then pure (s, f, m)
      else if s.flowLevel > 0 && c == ':' &&
          (s.isAt 1 ',' || s.isAt 1 '?' || s.isAt 1 '[' || s.isAt 1 ']' || s.isAt 1 '\x7b' ||
            s.isAt 1 '\x7d') then
        fail "found unexpected \x27:\x27" s.mark (some ("while scanning a plain scalar", start))
      else if (c == ':' && s.blankZAt 1) ||
          (s.flowLevel > 0 && (c == ',' || c == '[' || c == ']' || c == '\x7b' || c == '\x7d')) then
        pure (s, f, m)
      else
        let f := if f.leadingBlanks || !f.whitespaces.isEmpty then f.join else f
        let s := s.skip
        plainRun start n s { f with text := f.text.push c } s.mark

/-- Reads a plain scalar. -/
def scanPlain (s : Scanner) : Except SyntaxError Scanner := do
  let start := s.mark
  let indent := s.indent + 1
  let rec go : Nat → Scanner → Folding → Mark → Except SyntaxError (Scanner × Folding × Mark)
    | 0, s, f, m => pure (s, f, m)
    | n + 1, s, f, m => do
      if s.atDocumentMarker || s.isAt 0 '#' then return (s, f, m)
      let (s, f, m) ← plainRun start s.fuel s f m
      if !(s.blankAt 0 || s.breakAt 0) then return (s, f, m)
      let (s, f) ← readBlanks (some (indent, start)) s.fuel s f
      if s.flowLevel == 0 && (s.mark.column : Int) < indent then return (s, f, m)
      go n s f m
  let (s, f, stop) ← go s.fuel s {} start
  let s := s.emit (.scalar f.text .plain) start stop
  pure (if f.leadingBlanks then { s with allowSimpleKey := true } else s)

/-- The character a one-letter escape stands for. -/
def simpleEscape (c : Char) : Option Char :=
  match c with
  | '0' => some (Char.ofNat 0) | 'a' => some (Char.ofNat 7) | 'b' => some (Char.ofNat 8)
  | 't' => some '\t' | '\t' => some '\t' | 'n' => some '\n' | 'v' => some (Char.ofNat 11)
  | 'f' => some (Char.ofNat 12) | 'r' => some '\r' | 'e' => some (Char.ofNat 27)
  | ' ' => some ' ' | '"' => some '"' | '/' => some '/' | '\\' => some '\\'
  | 'N' => some (Char.ofNat 0x85) | '_' => some (Char.ofNat 0xA0)
  | 'L' => some (Char.ofNat 0x2028) | 'P' => some (Char.ofNat 0x2029)
  | _ => if c.toNat == 0x27 then some c else none

/-- Reads the hexadecimal digits of an escape. -/
def hexDigits (s : Scanner) (count : Nat) : Option Nat :=
  (List.range count).foldlM (fun acc k => do
    let c ← s.peekAt k
    let d ← hexValue? c
    pure (acc * 16 + d)) 0

/-- Skips `n` characters of a line. -/
def skipN (s : Scanner) : Nat → Scanner
  | 0 => s
  | n + 1 => skipN s.skip n

/-- Reads the characters of one run of a quoted scalar: up to a blank, a break, the
closing quote, or an escaped line break. -/
def quotedRun (single : Bool) (start : Mark) : Nat → Scanner → Folding →
    Except SyntaxError (Scanner × Folding)
  | 0, s, f => pure (s, f)
  | n + 1, s, f =>
    match s.peekAt 0 with
    | none => pure (s, f)
    | some c =>
      if isBlank c || isBreak c then pure (s, f)
      else if single && c.toNat == 0x27 && s.isAt 1 c then
        quotedRun single start n (s.skip.skip) { f with text := f.text.push c }
      else if (single && c.toNat == 0x27) || (!single && c == '"') then pure (s, f)
      else if !single && c == '\\' && s.breakAt 1 then
        pure (s.skip.readBreak.1, { f with leadingBlanks := true })
      else if !single && c == '\\' then
        match s.peekAt 1 with
        | some e =>
          match simpleEscape e with
          | some r => quotedRun single start n (s.skip.skip) { f with text := f.text.push r }
          | none =>
            let width := if e == 'x' then 2 else if e == 'u' then 4 else if e == 'U' then 8 else 0
            if width == 0 then
              fail "found unknown escape character" s.mark (some ("while parsing a quoted scalar", start))
            else
              let s := s.skip.skip
              match hexDigits s width with
              | none =>
                fail "did not find expected hexadecimal number" s.mark
                  (some ("while parsing a quoted scalar", start))
              | some v =>
                if (0xD800 ≤ v && v ≤ 0xDFFF) || v > 0x10FFFF then
                  fail "found invalid Unicode character escape code" s.mark
                    (some ("while parsing a quoted scalar", start))
                else quotedRun single start n (s.skipN width) { f with text := f.text.push (Char.ofNat v) }
        | none => fail "found unknown escape character" s.mark (some ("while parsing a quoted scalar", start))
      else quotedRun single start n s.skip { f with text := f.text.push c }

/-- Reads a single- or double-quoted scalar. -/
def scanQuoted (s : Scanner) (single : Bool) : Except SyntaxError Scanner := do
  let start := s.mark
  let quote := if single then Char.ofNat 0x27 else '"'
  let rec go : Nat → Scanner → Folding → Except SyntaxError (Scanner × Folding)
    | 0, s, f => pure (s, f)
    | n + 1, s, f => do
      if s.atDocumentMarker then
        fail "found unexpected document indicator" s.mark (some ("while scanning a quoted scalar", start))
      if s.endAt 0 then
        fail "found unexpected end of stream" s.mark (some ("while scanning a quoted scalar", start))
      let (s, f) ← quotedRun single start s.fuel s { f with leadingBlanks := false }
      if s.isAt 0 quote then return (s, f)
      let (s, f) ← readBlanks none s.fuel s f
      go n s f.join
  let (s, f) ← go s.fuel s.skip {}
  let s := s.skip
  pure (s.emit (.scalar f.text (if single then .single else .double)) start s.mark)

/-- Reads indentation and empty lines before a block scalar's next line; fixes the
indentation on the first call when it is not given. -/
def blockBreaks (start : Mark) (scannerIndent : Int) : Nat → Scanner → Nat → Nat → String →
    Except SyntaxError (Scanner × Nat × String)
  | 0, s, indent, _, breaks => pure (s, indent, breaks)
  | n + 1, s, indent, maxIndent, breaks => do
    let rec spaces : Nat → Scanner → Scanner
      | 0, s => s
      | k + 1, s =>
        if (indent == 0 || s.mark.column < indent) && s.isAt 0 ' ' then spaces k s.skip else s
    let s := spaces s.fuel s
    let maxIndent := max maxIndent s.mark.column
    if (indent == 0 || s.mark.column < indent) && s.isAt 0 '\t' then
      fail "found a tab character where an indentation space is expected" s.mark
        (some ("while scanning a block scalar", start))
    if s.breakAt 0 then
      let (s, br) := s.readBreak
      blockBreaks start scannerIndent n s indent maxIndent (breaks ++ br)
    else
      let indent :=
        if indent == 0 then max (max maxIndent (scannerIndent + 1).toNat) 1 else indent
      pure (s, indent, breaks)

/-- Reads a literal (`|`) or folded (`>`) block scalar. -/
def scanBlock (s : Scanner) (literal : Bool) : Except SyntaxError Scanner := do
  let start := s.mark
  let s := s.skip
  let ctx := some ("while scanning a block scalar", start)
  let chompOf (c : Char) : Int := if c == '+' then 1 else -1
  let (s, chomp, increment) ←
    match s.peekAt 0 with
    | some c =>
      if c == '+' || c == '-' then
        let s := s.skip
        match s.peekAt 0 with
        | some d =>
          if d.isDigit then
            if d == '0' then fail "found an indentation indicator equal to 0" s.mark ctx
            else pure (s.skip, chompOf c, d.toNat - '0'.toNat)
          else pure (s, chompOf c, 0)
        | none => pure (s, chompOf c, 0)
      else if c.isDigit then
        if c == '0' then fail "found an indentation indicator equal to 0" s.mark ctx
        else
          let s := s.skip
          match s.peekAt 0 with
          | some d => if d == '+' || d == '-' then pure (s.skip, chompOf d, c.toNat - '0'.toNat)
                      else pure (s, (0 : Int), c.toNat - '0'.toNat)
          | none => pure (s, (0 : Int), c.toNat - '0'.toNat)
      else pure (s, (0 : Int), 0)
    | none => pure (s, (0 : Int), 0)
  let rec blanks : Nat → Scanner → Scanner
    | 0, s => s
    | k + 1, s => if s.blankAt 0 then blanks k s.skip else s
  let rec comment : Nat → Scanner → Scanner
    | 0, s => s
    | k + 1, s => if s.breakAt 0 || s.endAt 0 then s else comment k s.skip
  let s := blanks s.fuel s
  let s := if s.isAt 0 '#' then comment s.fuel s else s
  if !(s.breakAt 0 || s.endAt 0) then
    fail "did not find expected comment or line break" s.mark ctx
  let s := if s.breakAt 0 then s.readBreak.1 else s
  let indent : Nat :=
    if increment > 0 then
      if s.indent ≥ 0 then (s.indent + increment).toNat else increment
    else 0
  let (s, indent, trailing) ← blockBreaks start s.indent s.fuel s indent 0 ""
  let rec lines : Nat → Scanner → String → String → String → Bool →
      Except SyntaxError (Scanner × String × String × String)
    | 0, s, text, leading, trailing, _ => pure (s, text, leading, trailing)
    | n + 1, s, text, leading, trailing, leadingBlank => do
      if !(s.mark.column == indent && !s.endAt 0) then return (s, text, leading, trailing)
      let trailingBlank := s.blankAt 0
      let text :=
        if !literal && leading.startsWith "\n" && !leadingBlank && !trailingBlank then
          if trailing.isEmpty then text.push ' ' else text
        else text ++ leading
      let text := text ++ trailing
      let leadingBlank := s.blankAt 0
      let rec line : Nat → Scanner → String → Scanner × String
        | 0, s, t => (s, t)
        | k + 1, s, t =>
          match s.peekAt 0 with
          | some c => if isBreak c then (s, t) else line k s.skip (t.push c)
          | none => (s, t)
      let (s, text) := line s.fuel s text
      let (s, leading) := s.readBreak
      let (s, _, trailing) ← blockBreaks start s.indent s.fuel s indent 0 ""
      lines n s text leading trailing leadingBlank
  let (s, text, leading, trailing) ← lines s.fuel s "" "" trailing false
  let text := if chomp != -1 then text ++ leading else text
  let text := if chomp == 1 then text ++ trailing else text
  pure ({ s.emit (.scalar text (if literal then .literal else .folded)) start s.mark with
          allowSimpleKey := s.allowSimpleKey })

/-- Reads an anchor (`&name`) or an alias (`*name`). -/
def scanName (s : Scanner) (isAlias : Bool) : Except SyntaxError Scanner := do
  let start := s.mark
  let rec go : Nat → Scanner → String → Scanner × String
    | 0, s, t => (s, t)
    | n + 1, s, t =>
      match s.peekAt 0 with
      | some c => if isNameChar c then go n s.skip (t.push c) else (s, t)
      | none => (s, t)
  let (s, name) := go s.fuel s.skip ""
  let endsWell := s.blankZAt 0 || s.isAt 0 '?' || s.isAt 0 ':' || s.isAt 0 ',' || s.isAt 0 ']' ||
    s.isAt 0 '\x7d' || s.isAt 0 '%' || s.isAt 0 '@' || s.isAt 0 (Char.ofNat 0x60)
  if name.isEmpty || !endsWell then
    fail "did not find expected alphabetic or numeric character" s.mark
      (some (if isAlias then "while scanning an alias" else "while scanning an anchor", start))
  pure (s.emit (if isAlias then .alias name else .anchor name) start s.mark)

/-- The number of UTF-8 bytes a sequence starting with this byte has; zero when it
cannot start one. -/
def leadingWidth (octet : Nat) : Nat :=
  if octet < 0x80 then 1
  else if 0xC0 ≤ octet && octet < 0xE0 then 2
  else if 0xE0 ≤ octet && octet < 0xF0 then 3
  else if 0xF0 ≤ octet && octet < 0xF8 then 4
  else 0

/-- Reads the `%XX` escapes of one UTF-8 sequence in a tag. -/
def uriEscapes (context : String) (start : Mark) : Nat → Scanner → Nat → List UInt8 →
    Except SyntaxError (Scanner × List UInt8)
  | 0, s, _, acc => pure (s, acc)
  | n + 1, s, width, acc => do
    let octet? : Option Nat := do
      guard (s.isAt 0 '%')
      let hi ← (s.peekAt 1).bind hexValue?
      let lo ← (s.peekAt 2).bind hexValue?
      pure (hi * 16 + lo)
    let some octet := octet?
      | fail "did not find URI escaped octet" s.mark (some (context, start))
    let width ←
      if width == 0 then
        let w := leadingWidth octet
        if w == 0 then fail "found an incorrect leading UTF-8 octet" s.mark (some (context, start))
        pure w
      else if octet < 0x80 || 0xC0 ≤ octet then
        fail "found an incorrect trailing UTF-8 octet" s.mark (some (context, start))
      else pure width
    let s := s.skip.skip.skip
    let acc := acc ++ [octet.toUInt8]
    if width == 1 then pure (s, acc) else uriEscapes context start n s (width - 1) acc

/-- Reads the URI of a tag after `head` (a handle that turned out to start the tag; its
leading `!` is dropped): URI characters and `%` escapes, and flow indicators only when
`flowChars`.  It fails when neither the head nor the text gave a character. -/
def tagUri (flowChars directive : Bool) (start : Mark) (head : String) (s : Scanner) :
    Except SyntaxError (Scanner × List UInt8) := do
  let context := if directive then "while parsing a %TAG directive" else "while parsing a tag"
  let rec go : Nat → Scanner → List UInt8 → Nat → Except SyntaxError (Scanner × List UInt8 × Nat)
    | 0, s, acc, count => pure (s, acc, count)
    | n + 1, s, acc, count =>
      match s.peekAt 0 with
      | some c =>
        if c == '%' then do
          let (s, acc) ← uriEscapes context start 4 s 0 acc
          go n s acc (count + 1)
        else if isUriChar c || (flowChars && (c == ',' || c == '[' || c == ']')) then
          go n s.skip (acc ++ [c.toUInt8]) (count + 1)
        else pure (s, acc, count)
      | none => pure (s, acc, count)
  let headBytes := (head.toList.drop 1).map Char.toUInt8
  let (s, bytes, count) ← go s.fuel s headBytes head.length
  if count == 0 then fail "did not find expected tag URI" s.mark (some (context, start))
  pure (s, bytes)

/-- Reads a tag handle: `!`, then letters, digits, `_` and `-`, then `!` if there is one.
In a directive the handle must be `!` or end with `!`. -/
def tagHandle (directive : Bool) (start : Mark) (s : Scanner) : Except SyntaxError (Scanner × String) := do
  if !s.isAt 0 '!' then
    fail "did not find expected \x27!\x27" s.mark
      (some (if directive then "while scanning a tag directive" else "while scanning a tag", start))
  let rec word : Nat → Scanner → String → Scanner × String
    | 0, s, t => (s, t)
    | n + 1, s, t =>
      match s.peekAt 0 with
      | some c => if isNameChar c then word n s.skip (t.push c) else (s, t)
      | none => (s, t)
  let (s, w) := word s.fuel s.skip ""
  if s.isAt 0 '!' then pure (s.skip, "!" ++ w ++ "!")
  else if directive && !w.isEmpty then
    fail "did not find expected \x27!\x27" s.mark (some ("while parsing a tag directive", start))
  else pure (s, "!" ++ w)

/-- The bytes of a C string: those before the first zero byte. -/
def cString (bytes : List UInt8) : List UInt8 := bytes.takeWhile (· != 0)

/-- Reads a tag: `!<uri>`, `!!suffix`, `!handle!suffix`, `!suffix` or `!`.  The tag `!`
alone has an empty handle and the suffix `!`. -/
def scanTag (s : Scanner) : Except SyntaxError Scanner := do
  let start := s.mark
  let ctx := some ("while scanning a tag", start)
  let (s, handle, suffix) ←
    if s.isAt 1 '<' then do
      let (s, u) ← tagUri true false start "" s.skip.skip
      if !s.isAt 0 '>' then fail "did not find the expected \x27>\x27" s.mark ctx
      pure (s.skip, "", u)
    else do
      let (s, h) ← tagHandle false start s
      if h.length > 1 && h.endsWith "!" then
        let (s, u) ← tagUri false false start "" s
        pure (s, h, u)
      else
        let (s, u) ← tagUri false false start h s
        if (cString u).isEmpty then pure (s, "", [('!' : Char).toUInt8]) else pure (s, "!", u)
  if !(s.blankZAt 0 || (s.flowLevel > 0 && s.isAt 0 ',')) then
    fail "did not find expected whitespace or line break" s.mark ctx
  pure (s.emit (.tag handle suffix) start s.mark)

/-- The longest version number a `%YAML` directive may give, in digits. -/
def maxVersionDigits : Nat := 9

/-- Reads one number of a `%YAML` directive's version. -/
def versionNumber (start : Mark) (s : Scanner) : Except SyntaxError (Scanner × Nat) := do
  let ctx := some ("while scanning a %YAML directive", start)
  let rec go : Nat → Scanner → Nat → Nat → Except SyntaxError (Scanner × Nat × Nat)
    | 0, s, v, len => pure (s, v, len)
    | n + 1, s, v, len =>
      match s.peekAt 0 with
      | some c =>
        if c.isDigit then
          if len + 1 > maxVersionDigits then fail "found extremely long version number" s.mark ctx
          else go n s.skip (v * 10 + (c.toNat - '0'.toNat)) (len + 1)
        else pure (s, v, len)
      | none => pure (s, v, len)
  let (s, v, len) ← go s.fuel s 0 0
  if len == 0 then fail "did not find expected version number" s.mark ctx
  pure (s, v)

/-- Skips blanks. -/
def skipBlanks (s : Scanner) : Scanner :=
  let rec go : Nat → Scanner → Scanner
    | 0, s => s
    | n + 1, s => if s.blankAt 0 then go n s.skip else s
  go s.fuel s

/-- Reads a directive line: `%YAML major.minor` or `%TAG handle prefix`, then blanks and
a comment, and the line break. -/
def scanDirective (s : Scanner) : Except SyntaxError Scanner := do
  let start := s.mark
  let ctx := some ("while scanning a directive", start)
  let rec name : Nat → Scanner → String → Scanner × String
    | 0, s, t => (s, t)
    | n + 1, s, t =>
      match s.peekAt 0 with
      | some c => if isNameChar c then name n s.skip (t.push c) else (s, t)
      | none => (s, t)
  let (s, n) := name s.fuel s.skip ""
  if n.isEmpty then fail "could not find expected directive name" s.mark ctx
  if !s.blankZAt 0 then fail "found unexpected non-alphabetical character" s.mark ctx
  let (s, kind) ←
    if n == "YAML" then do
      let (s, major) ← versionNumber start s.skipBlanks
      if !s.isAt 0 '.' then
        fail "did not find expected digit or \x27.\x27 character" s.mark
          (some ("while scanning a %YAML directive", start))
      let (s, minor) ← versionNumber start s.skip
      pure (s, TokenKind.versionDirective major minor)
    else if n == "TAG" then do
      let (s, handle) ← tagHandle true start s.skipBlanks
      if !s.blankAt 0 then
        fail "did not find expected whitespace" s.mark (some ("while scanning a %TAG directive", start))
      let (s, uri) ← tagUri true true start "" s.skipBlanks
      if !s.blankZAt 0 then
        fail "did not find expected whitespace or line break" s.mark
          (some ("while scanning a %TAG directive", start))
      pure (s, TokenKind.tagDirective handle uri)
    else fail "found unknown directive name" s.mark ctx
  let stop := s.mark
  let rec comment : Nat → Scanner → Scanner
    | 0, s => s
    | k + 1, s => if s.breakAt 0 || s.endAt 0 then s else comment k s.skip
  let s := s.skipBlanks
  let s := if s.isAt 0 '#' then comment s.fuel s else s
  if !(s.breakAt 0 || s.endAt 0) then fail "did not find expected comment or line break" s.mark ctx
  let s := if s.breakAt 0 then s.readBreak.1 else s
  pure (s.emit kind start stop)

/-- Reads the next token, or ends the stream.  Possible simple keys are checked for
staleness both before and after the blanks and comments that precede the token. -/
def fetchNext (s : Scanner) : Except SyntaxError Scanner := do
  let s ← s.staleKeys
  let s := s.skipToToken
  let s ← s.staleKeys
  let s := s.unrollIndent s.mark.column
  let m := s.mark
  match s.peekAt 0 with
  | none =>
    let s := if s.mark.column != 0 then { s with mark := { s.mark with column := 0, line := s.mark.line + 1 } }
      else s
    let s := s.unrollIndent (-1)
    let s ← s.removeKey
    pure { (s.emit .streamEnd s.mark s.mark) with allowSimpleKey := false, done := true }
  | some c =>
    if m.column == 0 && c == '%' then
      let s := s.unrollIndent (-1)
      let s ← s.removeKey
      scanDirective { s with allowSimpleKey := false }
    else if s.atDocumentMarker then
      let s := s.unrollIndent (-1)
      let s ← s.removeKey
      let s := { s with allowSimpleKey := false }.skipN 3
      pure (s.emit (if c == '-' then .documentStart else .documentEnd) m s.mark)
    else if c == '[' || c == '\x7b' then
      let s ← s.saveKey
      let s := { s with keys := {} :: s.keys, flowLevel := s.flowLevel + 1, allowSimpleKey := true }.skip
      pure (s.emit (if c == '[' then .flowSequenceStart else .flowMappingStart) m s.mark)
    else if c == ']' || c == '\x7d' then
      let s ← s.removeKey
      let s := if s.flowLevel > 0 then { s with keys := s.keys.tail, flowLevel := s.flowLevel - 1 } else s
      let s := { s with allowSimpleKey := false }.skip
      pure (s.emit (if c == ']' then .flowSequenceEnd else .flowMappingEnd) m s.mark)
    else if c == ',' then
      let s ← s.removeKey
      let s := { s with allowSimpleKey := true }.skip
      pure (s.emit .flowEntry m s.mark)
    else if c == '-' && s.blankZAt 1 then
      let s ←
        if s.flowLevel == 0 then
          if !s.allowSimpleKey then
            fail "block sequence entries are not allowed in this context" s.mark
          else pure (s.rollIndent m.column none .blockSequenceStart m)
        else pure s
      let s ← s.removeKey
      let s := { s with allowSimpleKey := true }.skip
      pure (s.emit .blockEntry m s.mark)
    else if c == '?' && (s.flowLevel > 0 || s.blankZAt 1) then
      let s ←
        if s.flowLevel == 0 then
          if !s.allowSimpleKey then fail "mapping keys are not allowed in this context" s.mark
          else pure (s.rollIndent m.column none .blockMappingStart m)
        else pure s
      let s ← s.removeKey
      let s := { s with allowSimpleKey := s.flowLevel == 0 }.skip
      pure (s.emit .key m s.mark)
    else if c == ':' && (s.flowLevel > 0 || s.blankZAt 1) then
      let k := s.topKey
      let s ←
        if k.possible then
          let s := s.insertAt k.tokenNumber ⟨.key, k.mark, k.mark⟩
          let s := s.rollIndent k.mark.column (some k.tokenNumber) .blockMappingStart k.mark
          pure { s.setTopKey { k with possible := false } with allowSimpleKey := false }
        else do
          let s ←
            if s.flowLevel == 0 then
              if !s.allowSimpleKey then fail "mapping values are not allowed in this context" s.mark
              else pure (s.rollIndent m.column none .blockMappingStart m)
            else pure s
          pure { s with allowSimpleKey := s.flowLevel == 0 }
      let s := s.skip
      pure (s.emit .value m s.mark)
    else if c == '*' || c == '&' then
      let s ← s.saveKey
      scanName { s with allowSimpleKey := false } (c == '*')
    else if c == '!' then
      let s ← s.saveKey
      scanTag { s with allowSimpleKey := false }
    else if (c == '|' || c == '>') && s.flowLevel == 0 then
      let s ← s.removeKey
      scanBlock { s with allowSimpleKey := true } (c == '|')
    else if c.toNat == 0x27 || c == '"' then
      let s ← s.saveKey
      scanQuoted { s with allowSimpleKey := false } (c.toNat == 0x27)
    else if !(isBlank c || isBreak c || "-?:,[]#&*!|>\"%@".toList.contains c || c == '\x7b' ||
          c == '\x7d' || c.toNat == 0x27 || c.toNat == 0x60) ||
        (c == '-' && !s.blankAt 1) || (s.flowLevel == 0 && (c == '?' || c == ':') && !s.blankZAt 1) then
      let s ← s.saveKey
      scanPlain { s with allowSimpleKey := false }
    else
      fail "found character that cannot start any token" s.mark (some ("while scanning for the next token", m))

/-- Whether a character may appear in YAML text. -/
def allowedChar (c : Char) : Bool :=
  let n := c.toNat
  n == 0x9 || n == 0xA || n == 0xD || (0x20 ≤ n && n ≤ 0x7E) || n == 0x85 ||
    (0xA0 ≤ n && n ≤ 0xD7FF) || (0xE000 ≤ n && n ≤ 0xFFFD) || (0x10000 ≤ n && n ≤ 0x10FFFF)

/-- Forgets the possible simple keys that have gone stale and need not be keys; a
required one stays possible. -/
def settleKeys (s : Scanner) : Scanner :=
  { s with keys := s.keys.map fun k =>
      if k.possible && !k.required && (k.mark.line < s.mark.line || k.mark.offset + 1024 < s.mark.offset)
      then { k with possible := false } else k }

/-- The tokens a reader can take: those before the first token that a possible simple
key may still turn into a key, since a KEY token may yet be inserted before it. -/
def deliverable (s : Scanner) : Array Token :=
  match ((s.keys.filter (·.possible)).map (·.tokenNumber)).min? with
  | some j => s.tokens.extract 0 j
  | none => s.tokens

/-- Scans until the stream ends or an error: the tokens read and the error, if any.
After an error, the tokens are those a reader could take before the scan stopped. -/
def run (s : Scanner) : Nat → Array Token × Option SyntaxError
  | 0 => (s.tokens, none)
  | n + 1 =>
    if s.done then (s.tokens, none)
    else
      match s.fetchNext with
      | .ok s' => run s' n
      | .error e => (s.settleKeys.skipToToken.settleKeys.deliverable, some e)

end Scanner

/-- The byte offset of the first character that may not appear in YAML text. -/
def badChar (text : String) : Option Nat :=
  let rec go : List Char → Nat → Option Nat
    | [], _ => none
    | c :: cs, off => if Scanner.allowedChar c then go cs (off + c.utf8Size) else some off
  go text.toList 0

/-- The text is read in chunks of this many bytes.  A character that may not appear in
YAML text is found when its chunk is read: the first chunk is read before anything is
scanned, each later one when the scan reaches it. -/
def chunkBytes : Nat := 16384

/-- How many characters end before a byte offset. -/
def charsBefore (text : String) (bound : Nat) : Nat :=
  let rec go : List Char → Nat → Nat → Nat
    | [], n, _ => n
    | c :: cs, n, off => if off + c.utf8Size ≤ bound then go cs (n + 1) (off + c.utf8Size) else n
  go text.toList 0 0

/-- The tokens of a text, and the error that stopped the scan, if any.  A character that
may not appear in YAML text is an error as soon as the chunk holding it is read; the
scan sees only the characters before that chunk. -/
def tokenize (text : String) : Array Token × Option SyntaxError :=
  let chars := text.toList
  match badChar text with
  | none =>
    let s : Scanner := { text := chars.toArray }
    (s.emit .streamStart {} {}).run (3 * chars.length + 8)
  | some off =>
    let readerError : SyntaxError := { problem := "control characters are not allowed", mark := {}, offset := off }
    let seen := charsBefore text (off / chunkBytes * chunkBytes)
    if seen == 0 then (#[], some readerError)
    else
      let s : Scanner := { text := (chars.take seen).toArray }
      let (tokens, err) := (s.emit .streamStart {} {}).run (3 * seen + 8)
      match err with
      | some e => (tokens, some e)
      | none =>
        let closing (t : Token) : Bool := t.kind == .streamEnd || t.kind == .blockEnd
        let kept := (tokens.toList.reverse.dropWhile closing).reverse
        (kept.toArray, some readerError)

end ChunkProxy.Yaml
