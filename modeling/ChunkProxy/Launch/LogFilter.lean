import ChunkProxy.Text.Blank
import ChunkProxy.Unicode.Alphanumeric
import ChunkProxy.Launch.Pattern
/-!
# Log filters

Which log lines a run writes is set by a filter: directives separated by commas,
empty ones skipped.  A directive is read character by character, from its first
character that is not blank to its last, by a small machine (`Stage`):

* it opens with `[` and a span part, or with a letter, digit, `-`, `:` or `_`
  that begins a target or a level; any other first character refuses it;
* a target runs to `=`, after which a level follows, or to `[`, after which a
  span part follows; when the directive ends first, its text is a bare level if
  it reads as one and a target otherwise;
* a span part runs to `]`, giving the span name, or to `{`, giving the name (none
  when empty) and opening a field list, which ends with `}` and must then be
  followed by `]`; fields are separated by commas, and a field is a name with an
  optional `=value` and must not be empty;
* after a span part only `=` and a level may come, and a level runs to the end.

A level is a name (`trace`, `debug`, `info`, `warn`, `error` or `off`, in any
ASCII case) or a number from 0 to 5 in decimal, with leading zeros or a `+`
allowed, 0 being `off`; a directive without a level lets every level through.
A field value must read as a number or compile as a pattern (`Pattern.compiles`).

The parts of a directive are cut from the directive as given, at the byte
positions found in its trimmed form, so leading blanks shift every part by
their length.  Such parts usually just match nothing, but a cut that falls
inside a character stops the program (`DirectiveError.splitsCharacter`).

A directive with a span name (even an empty one) or a field value only applies
inside spans, so never to the lines of a run.  The others apply to the lines of
the targets that start with theirs and that carry every field they name.  A line
is written when the most specific directive that applies lets its level
through: the longest target first, a bare level last, then the most fields; of
two directives with the same target and fields the later counts.  A filter with
a directive that does not read is refused as a whole.
-/

namespace ChunkProxy.Launch

set_option autoImplicit false

open Text Unicode

/-- A log level, from the quietest. -/
inductive Level where
  | off
  | error
  | warn
  | info
  | debug
  | trace
  deriving DecidableEq, Repr

/-- How many levels lie below a level. -/
def Level.rank : Level → Nat
  | .off => 0
  | .error => 1
  | .warn => 2
  | .info => 3
  | .debug => 4
  | .trace => 5

/-- The name a level is written with. -/
def Level.name : Level → String
  | .off => "OFF"
  | .error => "ERROR"
  | .warn => "WARN"
  | .info => "INFO"
  | .debug => "DEBUG"
  | .trace => "TRACE"

/-- The level of a number from 0 to 5. -/
def Level.ofRank? : Nat → Option Level
  | 0 => some .off
  | 1 => some .error
  | 2 => some .warn
  | 3 => some .info
  | 4 => some .debug
  | 5 => some .trace
  | _ => none

/-- Reads an unsigned decimal number: digits, after an optional `+`. -/
def readUnsigned? (s : String) : Option Nat :=
  let digits := match s.toList with
    | '+' :: rest => rest
    | cs => cs
  if !digits.isEmpty && digits.all Char.isDigit then
    some (digits.foldl (fun n c => n * 10 + (c.toNat - '0'.toNat)) 0)
  else none

/-- Reads a level: a number from 0 to 5, or a name in any ASCII case. -/
def Level.parse? (s : String) : Option Level :=
  match readUnsigned? s with
  | some n => Level.ofRank? n
  | none =>
    match s.toLower with
    | "off" => some .off
    | "error" => some .error
    | "warn" => some .warn
    | "info" => some .info
    | "debug" => some .debug
    | "trace" => some .trace
    | _ => none

/-- A field a directive names, with the value it asks of the field, if any. -/
structure FieldMatch where
  name : String
  value : Option String := none
  deriving DecidableEq, Repr

/-- One directive: the target it applies to (every target when none), the span
name that restricts it, the fields it names, and the most verbose level it lets
through. -/
structure Directive where
  target : Option String := none
  span : Option String := none
  fields : List FieldMatch := []
  level : Level := .trace
  deriving DecidableEq, Repr

/-- Why a directive gives no filter. -/
inductive DirectiveError where
  /-- The directive does not read. -/
  | invalid
  /-- A part would be cut from the middle of a character. -/
  | splitsCharacter
  deriving DecidableEq, Repr

/-- Whether a field value reads as a floating-point number: a sign, then `inf`,
`infinity` or `nan` in any case, or digits with an optional point and fraction
(at least one digit in all) and an optional exponent.  Every integer reads so. -/
def readsAsNumber (s : String) : Bool :=
  let cs := match s.toList with
    | '+' :: r | '-' :: r => r
    | r => r
  let word := String.ofList (cs.map Char.toLower)
  if word == "inf" || word == "infinity" || word == "nan" then true
  else
    let whole := cs.takeWhile Char.isDigit
    let cs := cs.drop whole.length
    let (fraction, cs) := match cs with
      | '.' :: r => (r.takeWhile Char.isDigit, r.drop (r.takeWhile Char.isDigit).length)
      | r => ([], r)
    let exponentOk : Bool := match cs with
      | [] => true
      | e :: r =>
        (e == 'e' || e == 'E') &&
          let ds := match r with
            | '+' :: d | '-' :: d => d
            | d => d
          !ds.isEmpty && ds.all Char.isDigit
    (whole.length + fraction.length > 0) && exponentOk

/-- Whether a field value is one a directive may ask for: a boolean, a number, or a
pattern that compiles.  A boolean text compiles as a pattern. -/
def valueReads (s : String) : Bool := readsAsNumber s || Pattern.compiles s

/-- Reads a field: the text up to its first `=` names it, and the text from there to
the next `=`, if any, is its value. -/
def FieldMatch.parse (s : String) : Except DirectiveError FieldMatch :=
  match s.splitOn "=" with
  | name :: value :: _ => if valueReads value then .ok { name, value := some value } else .error .invalid
  | parts => .ok { name := parts.headD "" }

/-- The characters of a text with the byte offset each starts at, the first at `start`. -/
def withOffsets : List Char → Nat → List (Nat × Char)
  | [], _ => []
  | c :: rest, start => (start, c) :: withOffsets rest (start + c.utf8Size)

/-- The part of a text from byte `a` to byte `b`; an error when either is not at the
start of a character or the end, or `a` is after `b`. -/
def cutBytes (s : String) (a b : Nat) : Except DirectiveError String :=
  let cs := withOffsets s.toList 0
  let boundary (n : Nat) : Bool := n == s.utf8ByteSize || cs.any (·.1 == n)
  if a ≤ b && boundary a && boundary b then
    .ok (String.ofList ((cs.filter fun p => a ≤ p.1 && p.1 < b).map (·.2)))
  else .error .splitsCharacter

/-- Where the reading of a directive stands; the positions are where the part being
read starts. -/
inductive Stage where
  | start
  | levelOrTarget (start : Nat)
  | span (start : Nat)
  | field (start : Nat)
  | fields
  | target
  | level (start : Nat)
  | complete
  deriving DecidableEq, Repr

/-- Reads one character `c` at byte `i` of the trimmed directive; the parts are cut
from `text`, the directive as given. -/
def Stage.step (text : String) (d : Directive) (i : Nat) (c : Char) :
    Stage → Except DirectiveError (Directive × Stage)
  | .start =>
    if c == '[' then .ok (d, .span (i + 1))
    else if ['-', ':', '_'].contains c || isAlphanumeric c then .ok (d, .levelOrTarget i)
    else .error .invalid
  | .levelOrTarget s =>
    if c == '=' || c == '[' || c == ',' then do
      let t ← cutBytes text s i
      pure ({ d with target := some t }, if c == '=' then .level (i + 1) else if c == '[' then .span (i + 1)
        else .complete)
    else .ok (d, .levelOrTarget s)
  | .target => if c == '=' then .ok (d, .level (i + 1)) else .error .invalid
  | .span s =>
    if c == ']' then do
      let n ← cutBytes text s i
      pure ({ d with span := some n }, .target)
    else if c == '\x7b' then do
      let n ← cutBytes text s i
      pure ({ d with span := if n.isEmpty then none else some n }, .field (i + 1))
    else .ok (d, .span s)
  | .field s =>
    if c == '\x7d' || c == ',' then do
      let f ← cutBytes text s i
      if f.isEmpty then throw .invalid
      let m ← FieldMatch.parse f
      pure ({ d with fields := d.fields ++ [m] }, if c == ',' then .field (i + 1) else .fields)
    else .ok (d, .field s)
  | .fields => if c == ']' then .ok (d, .target) else .error .invalid
  | .level s => .ok (d, if c == ',' then .complete else .level s)
  | .complete => .error .invalid

/-- Ends the reading of a directive `text` at a stage. -/
def Stage.finish (text : String) (d : Directive) : Stage → Except DirectiveError Directive
  | .levelOrTarget s => do
    let v ← cutBytes text s text.utf8ByteSize
    match Level.parse? v with
    | some l => pure { d with level := l }
    | none => pure { d with target := some v }
  | .level s => do
    let v ← cutBytes text s text.utf8ByteSize
    if v.isEmpty then pure d
    else
      match Level.parse? v with
      | some l => pure { d with level := l }
      | none => throw .invalid
  | .target | .complete => pure d
  | _ => throw .invalid

/-- Reads one directive. -/
def Directive.parse (text : String) : Except DirectiveError Directive := do
  let trimmed := trimBlanksList text.toList
  let (d, stage) ← (withOffsets trimmed 0).foldlM
    (fun (acc : Directive × Stage) (p : Nat × Char) => acc.2.step text acc.1 p.1 p.2) ({}, .start)
  stage.finish text d

/-- Whether a directive may apply outside spans: it has no span name and asks no
field for a value. -/
def Directive.isStatic (d : Directive) : Bool := d.span.isNone && d.fields.all (·.value.isNone)

/-- A log filter: its directives in order. -/
abbrev LogFilter := List Directive

/-- Reads a filter, stopping at the first directive that does not read. -/
def LogFilter.parse (s : String) : Except DirectiveError LogFilter :=
  ((s.splitOn ",").filter (!·.isEmpty)).mapM Directive.parse

/-- The filter that lets `info` and above through, for every target. -/
def LogFilter.default : LogFilter := [{ level := .info }]

/-- The filter a run takes from its setting: the setting's, or the default when it
is unset or a directive does not read; none when reading it would cut a character
apart, which stops the program before it starts. -/
def LogFilter.fromSetting (setting : Option String) : Option LogFilter :=
  match setting with
  | none => some LogFilter.default
  | some s =>
    match LogFilter.parse s with
    | .ok f => some f
    | .error .invalid => some LogFilter.default
    | .error .splitsCharacter => none

/-- How specific a directive is: a bare level least, then by the byte length of
the target, then by the number of fields. -/
def Directive.specificity (d : Directive) : Nat × Nat :=
  (match d.target with
   | some t => t.utf8ByteSize + 1
   | none => 0, d.fields.length)

/-- Whether a directive applies outside any span to lines of a target that carry
the given fields. -/
def Directive.applies (d : Directive) (target : String) (fields : List String) : Bool :=
  d.isStatic && d.fields.all (fun f => fields.contains f.name) &&
    match d.target with
    | some t => t.isPrefixOf target
    | none => true

/-- Whether the first specificity is at least the second. -/
def atLeastAsSpecific (a b : Nat × Nat) : Bool := a.1 > b.1 || (a.1 == b.1 && a.2 ≥ b.2)

/-- Whether a filter writes a line of a target, with the given fields, at a level. -/
def LogFilter.enabled (f : LogFilter) (target : String) (fields : List String) (level : Level) : Bool :=
  let best := f.foldl (fun (acc : Option Directive) d =>
    if d.applies target fields then
      match acc with
      | some b => if atLeastAsSpecific d.specificity b.specificity then some d else some b
      | none => some d
    else acc) none
  match best with
  | some d => level.rank ≤ d.level.rank
  | none => false

end ChunkProxy.Launch
