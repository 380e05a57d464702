import ChunkProxy.Yaml.Scanner
/-!
# YAML documents

The parser reads the tokens of a stream into the first document's node tree:
scalars, sequences and mappings, each with the position of its first token
(its anchor or tag when it has one).  An anchored node is kept in the document's
table of anchored nodes, and an alias stands for the entry its anchor names.  An
anchor is in force from the start of its node, so an alias inside the node may
name the node itself, and a later anchor of the same name takes over from then on.  A tag's name is its handle's prefix followed by its suffix; the
handles in force are `!` and `!!` (the core schema) and those the document's
`%TAG` directives give, and a handle not in force is an error.  A document's
directives may give one `%YAML` version (1.1 or 1.2) and one prefix per handle.

Block sequences and mappings are delimited by their start and end tokens; a
sequence written at the indentation of the mapping that holds it (an
"indentless" sequence) ends at the first token that is not an entry.  Flow
collections are delimited by brackets and separated by commas; a `key: value`
entry of a flow sequence is a one-pair mapping.  A missing key or value is an
empty plain scalar.

Reading stops at the first error, whether the scanner's or the parser's.  The
tree read so far is kept: collections still open are marked unclosed and the
place where reading stopped is a `cut` node, so that a reader of the tree
meets the error exactly where the data runs out.
-/

namespace ChunkProxy.Yaml

set_option autoImplicit false

/-- A node's tag: the bytes of its full name. -/
structure Tag where
  bytes : List UInt8
  deriving DecidableEq, Repr, Inhabited

/-- The tag with a name given as text. -/
def Tag.ofText (s : String) : Tag := ⟨s.toUTF8.data.toList⟩

/-- The tag of the core schema with a short name, such as `int`. -/
def Tag.core (name : String) : Tag := Tag.ofText ("tag:yaml.org,2002:" ++ name)

/-- Whether a tag is local: its name starts with `!`. -/
def Tag.isLocal (t : Tag) : Bool := t.bytes.head? == some ('!' : Char).toUInt8

/-- The name a local tag gives: the text after its `!`, or `!` itself when nothing
follows; none for other tags and names that are not UTF-8. -/
def Tag.localName? (t : Tag) : Option String :=
  match t.bytes with
  | b :: rest =>
    if b != ('!' : Char).toUInt8 then none
    else String.fromUTF8? ⟨(if rest.isEmpty then t.bytes else rest).toArray⟩
  | [] => none

/-- A node of a document. -/
inductive Node where
  | scalar (value : String) (style : ScalarStyle) (tag : Option Tag) (mark : Mark)
  | seq (items : List Node) (closed : Bool) (tag : Option Tag) (mark : Mark)
  | map (pairs : List (Node × Node)) (closed : Bool) (tag : Option Tag) (mark : Mark)
  | alias (index : Nat) (mark : Mark)
  | cut
  deriving Repr, Inhabited

/-- The position of a node; a cut has none. -/
def Node.mark : Node → Mark
  | .scalar _ _ _ m => m
  | .seq _ _ _ m => m
  | .map _ _ _ m => m
  | .alias _ m => m
  | .cut => {}

/-- The tag of a node, if it has one. -/
def Node.tag : Node → Option Tag
  | .scalar _ _ t _ => t
  | .seq _ _ t _ => t
  | .map _ _ t _ => t
  | .alias .. => none
  | .cut => none

/-- Why reading a document stopped early. -/
inductive ReadError where
  | malformed (e : SyntaxError)
  | unknownAnchor (mark : Mark)
  deriving Repr, Inhabited

/-- The first document of a stream: its root (none for an empty stream), the error that
stopped reading, whether another document follows, and the anchored nodes in the
order their anchors appear, which aliases name by index. -/
structure Document where
  root : Option Node
  error : Option ReadError
  more : Bool
  anchored : Array Node := #[]
  deriving Repr

/-- The tag handles every document has, unless its directives name them: `!` for
local tags and `!!` for the core schema. -/
def defaultHandles : List (String × List UInt8) :=
  [("!", (Tag.ofText "!").bytes), ("!!", (Tag.ofText "tag:yaml.org,2002:").bytes)]

/-- The parser's state: the tokens, the scanner's error after the last of them, the
position, the anchors seen so far with the index of their node (latest first), the
anchored nodes (a node still being read is a `cut` until it is done), and the tag
handles in force with the prefixes they stand for. -/
structure ParseState where
  tokens : Array Token
  scanError : Option SyntaxError
  pos : Nat := 0
  anchors : List (String × Nat) := []
  anchored : Array Node := #[]
  handles : List (String × List UInt8) := defaultHandles

/-- A partial result: a node (maybe unfinished), the state, and the error that stopped
reading. -/
abbrev Parsed := Node × ParseState × Option ReadError

namespace ParseState

/-- The next token, or the scanner's error when the tokens ran out. -/
def peek (st : ParseState) : Except ReadError Token :=
  match st.tokens[st.pos]? with
  | some t => .ok t
  | none => .error (.malformed (st.scanError.getD { problem := "unexpected end of stream", mark := {} }))

/-- Moves past the next token. -/
def next (st : ParseState) : ParseState := { st with pos := st.pos + 1 }

end ParseState

/-- An empty plain scalar. -/
def emptyScalar (m : Mark) : Node := .scalar "" .plain none m

/-- A parser error. -/
def parseError (problem : String) (mark : Mark) (context : String) (contextMark : Mark) : ReadError :=
  .malformed { problem, mark, context := some (context, contextMark) }

/-- Whether a token is of one of the given kinds. -/
def TokenKind.isOneOf (k : TokenKind) (ks : List TokenKind) : Bool := ks.contains k

/-- The full name of a tag from its handle and suffix: the suffix alone for the empty
handle, else the handle's prefix then the suffix; none when the handle is not in force.
The suffix counts up to its first zero byte. -/
def ParseState.resolveTag (st : ParseState) (handle : String) (suffix : List UInt8) : Option Tag :=
  if handle.isEmpty then some ⟨Scanner.cString suffix⟩
  else (st.handles.lookup handle).map fun p => ⟨p ++ Scanner.cString suffix⟩

mutual

/-- Reads a node; `block` allows block collections, `indentless` a sequence at the
mapping's indentation. -/
def parseNode (fuel : Nat) (block indentless : Bool) (st : ParseState) : Parsed :=
  match fuel with
  | 0 => (.cut, st, none)
  | fuel + 1 =>
    match st.peek with
    | .error e => (.cut, st, some e)
    | .ok tok =>
      match tok.kind with
      | .alias name =>
        match st.anchors.lookup name with
        | some i => (.alias i tok.start, st.next, none)
        | none => (.cut, st, some (.unknownAnchor tok.start))
      | _ =>
        -- properties: an anchor and a tag, in either order
        let (anchor, tagToken, st) : Option String × Option (String × List UInt8 × Mark) × ParseState :=
          match tok.kind with
          | .anchor a =>
            let st := st.next
            match st.peek with
            | .ok { kind := .tag h s, start := m, .. } => (some a, some (h, s, m), st.next)
            | _ => (some a, none, st)
          | .tag h s =>
            let st := st.next
            match st.peek with
            | .ok { kind := .anchor a, .. } => (some a, some (h, s, tok.start), st.next)
            | _ => (none, some (h, s, tok.start), st)
          | _ => (none, none, st)
        let start := tok.start
        -- the anchor names its node from here on; the node is filled in when read
        let (slot, st) : Option Nat × ParseState :=
          match anchor with
          | some a =>
            (some st.anchored.size,
              { st with anchors := (a, st.anchored.size) :: st.anchors, anchored := st.anchored.push .cut })
          | none => (none, st)
        let remember (r : Parsed) : Parsed :=
          match slot, r with
          | some i, (n, st, e) => (n, { st with anchored := st.anchored.setIfInBounds i n }, e)
          | none, r => r
        let resolved : Except ReadError (Option Tag) :=
          match tagToken with
          | none => .ok none
          | some (h, sfx, m) =>
            match st.resolveTag h sfx with
            | some t => .ok (some t)
            | none => .error (parseError "found undefined tag handle" m "while parsing a node" start)
        match resolved with
        | .error e => (.cut, st, some e)
        | .ok tag =>
          match st.peek with
          | .error e => (.cut, st, some e)
          | .ok t =>
            match t.kind with
            | .blockEntry =>
              if indentless then remember (indentlessSeq fuel tag start [] st)
              else if anchor.isSome || tagToken.isSome then remember (.scalar "" .plain tag start, st, none)
              else (.cut, st, some (parseError "did not find expected node content" t.start
                (if block then "while parsing a block node" else "while parsing a flow node") start))
            | .scalar v style => remember (.scalar v style tag start, st.next, none)
            | .flowSequenceStart => remember (flowSeq fuel true tag start t.start [] st.next)
            | .flowMappingStart => remember (flowMap fuel true tag start t.start [] st.next)
            | .blockSequenceStart =>
              if block then remember (blockSeq fuel tag start t.start [] st.next)
              else if anchor.isSome || tagToken.isSome then remember (.scalar "" .plain tag start, st, none)
              else (.cut, st, some (parseError "did not find expected node content" t.start
                "while parsing a flow node" start))
            | .blockMappingStart =>
              if block then remember (blockMap fuel tag start t.start [] st.next)
              else if anchor.isSome || tagToken.isSome then remember (.scalar "" .plain tag start, st, none)
              else (.cut, st, some (parseError "did not find expected node content" t.start
                "while parsing a flow node" start))
            | _ =>
              if anchor.isSome || tagToken.isSome then remember (.scalar "" .plain tag start, st, none)
              else (.cut, st, some (parseError "did not find expected node content" t.start
                (if block then "while parsing a block node" else "while parsing a flow node") start))

/-- Reads the entries of a block sequence after its start token. -/
def blockSeq (fuel : Nat) (tag : Option Tag) (start open_ : Mark) (items : List Node) (st : ParseState) : Parsed :=
  match fuel with
  | 0 => (.seq items false tag start, st, none)
  | fuel + 1 =>
    match st.peek with
    | .error e => (.seq items false tag start, st, some e)
    | .ok tok =>
      match tok.kind with
      | .blockEntry =>
        let st := st.next
        match st.peek with
        | .error e => (.seq items false tag start, st, some e)
        | .ok t =>
          if t.kind.isOneOf [.blockEntry, .blockEnd] then
            blockSeq fuel tag start open_ (items ++ [emptyScalar tok.stop]) st
          else
            match parseNode fuel true false st with
            | (n, st, none) => blockSeq fuel tag start open_ (items ++ [n]) st
            | (n, st, some e) => (.seq (items ++ [n]) false tag start, st, some e)
      | .blockEnd => (.seq items true tag start, st.next, none)
      | _ => (.seq items false tag start, st, some (parseError "did not find expected \x27-\x27 indicator"
          tok.start "while parsing a block collection" open_))

/-- Reads the entries of a sequence at the indentation of its mapping. -/
def indentlessSeq (fuel : Nat) (tag : Option Tag) (start : Mark) (items : List Node) (st : ParseState) : Parsed :=
  match fuel with
  | 0 => (.seq items false tag start, st, none)
  | fuel + 1 =>
    match st.peek with
    | .error e => (.seq items false tag start, st, some e)
    | .ok tok =>
      match tok.kind with
      | .blockEntry =>
        let st := st.next
        match st.peek with
        | .error e => (.seq items false tag start, st, some e)
        | .ok t =>
          if t.kind.isOneOf [.blockEntry, .key, .value, .blockEnd] then
            indentlessSeq fuel tag start (items ++ [emptyScalar tok.stop]) st
          else
            match parseNode fuel true false st with
            | (n, st, none) => indentlessSeq fuel tag start (items ++ [n]) st
            | (n, st, some e) => (.seq (items ++ [n]) false tag start, st, some e)
      | _ => (.seq items true tag start, st, none)

/-- Reads the entries of a block mapping after its start token. -/
def blockMap (fuel : Nat) (tag : Option Tag) (start open_ : Mark) (pairs : List (Node × Node)) (st : ParseState) :
    Parsed :=
  match fuel with
  | 0 => (.map pairs false tag start, st, none)
  | fuel + 1 =>
    match st.peek with
    | .error e => (.map pairs false tag start, st, some e)
    | .ok tok =>
      match tok.kind with
      | .key =>
        let st := st.next
        let keyPart : Parsed :=
          match st.peek with
          | .error e => (.cut, st, some e)
          | .ok t =>
            if t.kind.isOneOf [.key, .value, .blockEnd] then (emptyScalar tok.stop, st, none)
            else parseNode fuel true true st
        match keyPart with
        | (k, st, some e) => (.map (pairs ++ [(k, .cut)]) false tag start, st, some e)
        | (k, st, none) =>
          match blockValue fuel st with
          | (v, st, none) => blockMap fuel tag start open_ (pairs ++ [(k, v)]) st
          | (v, st, some e) => (.map (pairs ++ [(k, v)]) false tag start, st, some e)
      | .blockEnd => (.map pairs true tag start, st.next, none)
      | _ => (.map pairs false tag start, st, some (parseError "did not find expected key" tok.start
          "while parsing a block mapping" open_))

/-- Reads the value of a block mapping entry, empty when there is none. -/
def blockValue (fuel : Nat) (st : ParseState) : Parsed :=
  match st.peek with
  | .error e => (.cut, st, some e)
  | .ok tok =>
    match tok.kind with
    | .value =>
      let st := st.next
      match st.peek with
      | .error e => (.cut, st, some e)
      | .ok t =>
        if t.kind.isOneOf [.key, .value, .blockEnd] then (emptyScalar tok.stop, st, none)
        else parseNode fuel true true st
    | _ => (emptyScalar tok.start, st, none)

/-- Reads the entries of a flow sequence after its opening bracket. -/
def flowSeq (fuel : Nat) (first : Bool) (tag : Option Tag) (start open_ : Mark) (items : List Node) (st : ParseState) :
    Parsed :=
  match fuel with
  | 0 => (.seq items false tag start, st, none)
  | fuel + 1 =>
    match st.peek with
    | .error e => (.seq items false tag start, st, some e)
    | .ok tok =>
      if tok.kind == .flowSequenceEnd then (.seq items true tag start, st.next, none)
      else
        let sep : Except ReadError (Token × ParseState) :=
          if first then .ok (tok, st)
          else if tok.kind == .flowEntry then
            let st := st.next
            (st.peek).map fun t => (t, st)
          else .error (parseError "did not find expected \x27,\x27 or \x27]\x27" tok.start
            "while parsing a flow sequence" open_)
        match sep with
        | .error e => (.seq items false tag start, st, some e)
        | .ok (t, st) =>
          if t.kind == .flowSequenceEnd then (.seq items true tag start, st.next, none)
          else if t.kind == .key then
            -- a one-pair mapping
            let st := st.next
            let keyPart : Parsed :=
              match st.peek with
              | .error e => (.cut, st, some e)
              | .ok k =>
                if k.kind.isOneOf [.value, .flowEntry, .flowSequenceEnd] then (emptyScalar t.stop, st, none)
                else parseNode fuel false false st
            match keyPart with
            | (k, st, some e) => (.seq (items ++ [.map [(k, .cut)] false none t.start]) false tag start, st, some e)
            | (k, st, none) =>
              match flowPairValue fuel [.flowEntry, .flowSequenceEnd] st with
              | (v, st, none) => flowSeq fuel false tag start open_ (items ++ [.map [(k, v)] true none t.start]) st
              | (v, st, some e) => (.seq (items ++ [.map [(k, v)] false none t.start]) false tag start, st, some e)
          else
            match parseNode fuel false false st with
            | (n, st, none) => flowSeq fuel false tag start open_ (items ++ [n]) st
            | (n, st, some e) => (.seq (items ++ [n]) false tag start, st, some e)

/-- Reads the value of a flow entry, empty when there is none; `stops` end it. -/
def flowPairValue (fuel : Nat) (stops : List TokenKind) (st : ParseState) : Parsed :=
  match st.peek with
  | .error e => (.cut, st, some e)
  | .ok tok =>
    if tok.kind == .value then
      let st := st.next
      match st.peek with
      | .error e => (.cut, st, some e)
      | .ok t =>
        if t.kind.isOneOf stops then (emptyScalar t.start, st, none)
        else parseNode fuel false false st
    else (emptyScalar tok.start, st, none)

/-- Reads the entries of a flow mapping after its opening brace. -/
def flowMap (fuel : Nat) (first : Bool) (tag : Option Tag) (start open_ : Mark) (pairs : List (Node × Node))
    (st : ParseState) : Parsed :=
  match fuel with
  | 0 => (.map pairs false tag start, st, none)
  | fuel + 1 =>
    match st.peek with
    | .error e => (.map pairs false tag start, st, some e)
    | .ok tok =>
      if tok.kind == .flowMappingEnd then (.map pairs true tag start, st.next, none)
      else
        let sep : Except ReadError (Token × ParseState) :=
          if first then .ok (tok, st)
          else if tok.kind == .flowEntry then
            let st := st.next
            (st.peek).map fun t => (t, st)
          else .error (parseError "did not find expected \x27,\x27 or \x27\x7d\x27" tok.start
            "while parsing a flow mapping" open_)
        match sep with
        | .error e => (.map pairs false tag start, st, some e)
        | .ok (t, st) =>
          if t.kind == .flowMappingEnd then (.map pairs true tag start, st.next, none)
          else if t.kind == .key then
            let st := st.next
            let keyPart : Parsed :=
              match st.peek with
              | .error e => (.cut, st, some e)
              | .ok k =>
                if k.kind.isOneOf [.value, .flowEntry, .flowMappingEnd] then (emptyScalar k.start, st, none)
                else parseNode fuel false false st
            match keyPart with
            | (k, st, some e) => (.map (pairs ++ [(k, .cut)]) false tag start, st, some e)
            | (k, st, none) =>
              match flowPairValue fuel [.flowEntry, .flowMappingEnd] st with
              | (v, st, none) => flowMap fuel false tag start open_ (pairs ++ [(k, v)]) st
              | (v, st, some e) => (.map (pairs ++ [(k, v)]) false tag start, st, some e)
          else
            match parseNode fuel false false st with
            | (k, st, some e) => (.map (pairs ++ [(k, .cut)]) false tag start, st, some e)
            | (k, st, none) =>
              match st.peek with
              | .error e => (.map (pairs ++ [(k, .cut)]) false tag start, st, some e)
              | .ok t2 => flowMap fuel false tag start open_ (pairs ++ [(k, emptyScalar t2.start)]) st

end

/-- Whether a token is a directive. -/
def TokenKind.isDirective : TokenKind → Bool
  | .versionDirective .. | .tagDirective .. => true
  | _ => false

/-- Reads the directives before an explicit document: at most one `%YAML` directive,
of version 1.1 or 1.2, and `%TAG` directives of distinct handles.  The handles in force
are then the directives' and the default handles they do not name. -/
def readDirectives : Nat → ParseState → Bool → List (String × List UInt8) → Except ReadError ParseState
  | 0, st, _, tags => .ok { st with handles := tags }
  | n + 1, st, versioned, tags =>
    let refuse (problem : String) (mark : Mark) : Except ReadError ParseState :=
      .error (.malformed { problem, mark })
    match st.peek with
    | .error e => .error e
    | .ok t =>
      match t.kind with
      | .versionDirective major minor =>
        if versioned then refuse "found duplicate %YAML directive" t.start
        else if major != 1 || (minor != 1 && minor != 2) then refuse "found incompatible YAML document" t.start
        else readDirectives n st.next true tags
      | .tagDirective h p =>
        if tags.any (·.1 == h) then refuse "found duplicate %TAG directive" t.start
        else readDirectives n st.next versioned (tags ++ [(h, Scanner.cString p)])
      | _ => .ok { st with handles := tags ++ defaultHandles.filter fun d => !tags.any (·.1 == d.1) }

/-- Reads the first document of a stream. -/
def parseDocument (text : String) : Document :=
  let (tokens, scanError) := tokenize text
  let st : ParseState := { tokens, scanError, pos := 1 }
  let fuel := 4 * tokens.size + 16
  let skipEnds (st : ParseState) : ParseState :=
    let rec dropEnds : Nat → ParseState → ParseState
      | 0, st => st
      | n + 1, st => match st.peek with
        | .ok { kind := .documentEnd, .. } => dropEnds n st.next
        | _ => st
    dropEnds (tokens.size + 1) st
  -- after a complete document: its end marker, then whether another one follows
  let finish (root : Node) (st : ParseState) : Document :=
    let st := match st.peek with
      | .ok { kind := .documentEnd, .. } => st.next
      | _ => st
    let st := skipEnds st
    let more := match st.peek with
      | .ok { kind := .streamEnd, .. } => false
      | _ => true
    { root := some root, error := none, more, anchored := st.anchored }
  let stopped (e : ReadError) : Document := { root := some .cut, error := some e, more := false }
  match st.peek with
  | .error e => { root := none, error := some e, more := false }
  | .ok tok =>
    match tok.kind with
    | .streamEnd => { root := none, error := none, more := false }
    | .versionDirective .. | .tagDirective .. | .documentStart =>
      match readDirectives (tokens.size + 1) st false [] with
      | .error e => stopped e
      | .ok st =>
      match st.peek with
      | .error e => stopped e
      | .ok t =>
        if t.kind != .documentStart then
          stopped (.malformed { problem := "did not find expected <document start>", mark := t.start })
        else
          let st := st.next
          match st.peek with
          | .error e => stopped e
          | .ok c =>
            if c.kind.isDirective || c.kind.isOneOf [.documentStart, .documentEnd, .streamEnd] then
              finish (emptyScalar c.start) st
            else
              match parseNode fuel true false st with
              | (n, st, none) => finish n st
              | (n, st, some e) => { root := some n, error := some e, more := false, anchored := st.anchored }
    | _ =>
      match parseNode fuel true false st with
      | (n, st, none) => finish n st
      | (n, st, some e) => { root := some n, error := some e, more := false, anchored := st.anchored }

end ChunkProxy.Yaml
