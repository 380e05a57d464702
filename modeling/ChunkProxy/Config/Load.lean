import ChunkProxy.Config.Basic
import ChunkProxy.Yaml.Parser
import ChunkProxy.Yaml.Scalar
import ChunkProxy.Bytes.Utf8
/-!
# Reading a configuration document

A configuration is read from the first document of a YAML stream.  The root is a
mapping from field names to values; every field may be left out and takes its
default, a field named twice is refused, and fields the proxy does not know are
passed over.  An empty stream, and an empty document, give every default.

Each value is read by the type of its field:

* text fields take any scalar as written, whatever its tag;
* flags take a scalar spelling `true` or `false` (in the capitalisations of
  `Yaml.boolText?`): a plain one whatever its tag, or a literal block scalar tagged
  `!!bool`;
* numeric fields take, on the same terms with `!!int`, a scalar that reads as an
  unsigned 64-bit integer;
* the cache mode is named by a local tag (`!off`) on an empty or null plain scalar, or
  by an untagged scalar's text;
* an optional field is absent when its value is an untagged plain scalar that is empty
  or null, or a plain scalar tagged `!!null` with a null text; a record may be an empty
  plain scalar, which gives every default.

A refused scalar is described by what it means: its core-schema tag decides
(`!!bool`, `!!int`, `!!float`, `!!null`), a plain untagged or locally tagged one
means what it looks like (`Yaml.resolvePlain`), and any other is text.  Text that
does not read as its tag says is an invalid value rather than the wrong type.

A value given by an alias is read as the node its anchor names, and errors in it
take that node's position; an alias in a field that is passed over is not
followed, so an alias may name the node that holds it.

Errors name the field path (`cache.chunk_size`) and the position of the value,
as in ``cache.chunk_size: invalid type: string "x", expected u64 at line 3 column 15``.
A syntax error in the document is reported only when reading reaches the point
where the document stops, so an earlier wrong value is reported first; once the
whole root is read the syntax error is reported even if nothing needed what came
after it.  A second document after a good first one is refused.  An error with
no position of its own (a tagged null that is not null, an unknown mode named by a
tag) takes the path and position of the record that holds the value.
-/

namespace ChunkProxy.Config

set_option autoImplicit false

open Yaml

/-- Why a document is not a configuration. -/
inductive LoadError where
  /-- The document stops early, for this reason. -/
  | read (e : Yaml.ReadError)
  /-- The document stops early with no error: the stream ended. -/
  | endOfStream
  /-- A value at a field path and position does not fit its field. -/
  | decode (message : String) (path : String) (mark : Mark)
  /-- A value does not fit, and no position is known yet: the record holding the value
  gives its own path and position. -/
  | unplaced (message : String)
  /-- A second document follows the first. -/
  | moreThanOneDocument
  deriving Repr

/-- The text of a loading error. -/
def LoadError.render : LoadError → String
  | .read (.malformed e) => e.render
  | .read (.unknownAnchor m) => "unknown anchor" ++ (if m.isStart then "" else " at " ++ m.render)
  | .endOfStream => "EOF while parsing a value"
  | .decode msg path mark =>
    (if path == "." then "" else path ++ ": ") ++ msg ++ (if mark.isStart then "" else " at " ++ mark.render)
  | .unplaced msg => msg
  | .moreThanOneDocument => "deserializing from YAML containing more than one document is not supported"

/-- Gives an error a field path and position, unless it already has them. -/
def LoadError.placeAt (e : LoadError) (path : String) (mark : Mark) : LoadError :=
  match e with
  | .unplaced msg => .decode msg path mark
  | e => e

/-- The path of a field below a path; the root's path is `.`. -/
def childPath (parent key : String) : String :=
  if parent == "." then key else parent ++ "." ++ key

/-- Whether a reader of typed scalars looks at a scalar's text: a plain scalar's,
whatever its tag, and a literal block scalar's when it carries the reader's own tag. -/
def takesText (own : Tag) (style : ScalarStyle) (tag : Option Tag) : Bool :=
  style == .plain || (style == .literal && tag == some own)

/-- The message for a scalar refused where `expected` was wanted.  The scalar means what
its core-schema tag says (a boolean, an integer, a float or null), what its look says
when it is plain and untagged or has a local tag, and text otherwise.  A text that does
not read as its tag says is an invalid value; any other scalar is of the wrong type. -/
def scalarMismatch (v : String) (style : ScalarStyle) (tag : Option Tag) (expected : String) : String :=
  let wrongType (d : String) := "invalid type: " ++ d ++ ", expected " ++ expected
  let wrongValue (what : String) := "invalid value: string " ++ Text.quote v ++ ", expected " ++ what
  let byLook := wrongType ((resolvePlain v).describe v)
  let asText := wrongType ("string " ++ Text.quote v)
  match tag with
  | some t =>
    if t == Tag.core "bool" then
      match boolText? v with
      | some b => wrongType ((PlainValue.bool b).describe v)
      | none => wrongValue "a boolean"
    else if t == Tag.core "int" then
      match readInteger? v with
      | some p => wrongType (p.describe v)
      | none => wrongValue "an integer"
    else if t == Tag.core "float" then
      match readReal? v with
      | some x => wrongType ((PlainValue.real x).describe v)
      | none => wrongValue "a float"
    else if t == Tag.core "null" then
      if isNullText v then wrongType "unit value" else wrongValue "null"
    else if t.isLocal && style == .plain then byLook
    else asText
  | none => if style == .plain then byLook else asText

/-- The error for a scalar that should have been empty or null. -/
def notNull (v : String) : String := "invalid value: string " ++ Text.quote v ++ ", expected null"

/-- The context a document is read in: the error that meets a reader where the
document stops, and the document's anchored nodes, which its aliases name. -/
structure Reader where
  stop : LoadError
  anchored : Array Node := #[]

namespace Reader

variable (r : Reader)

/-- The node a value stands for: an alias stands for the node its anchor names, and
any other node for itself.  An anchored node is never an alias, so one step is
enough. -/
def resolve : Node → Node
  | .alias i _ => r.anchored.getD i .cut
  | n => n

/-- A node of the wrong type for what was expected. -/
def invalidType (n : Node) (expected path : String) : LoadError :=
  match n with
  | .cut => r.stop
  | .scalar v style tag m => .decode (scalarMismatch v style tag expected) path m
  | .seq _ _ _ m => .decode ("invalid type: sequence, expected " ++ expected) path m
  | .map _ _ _ m => .decode ("invalid type: map, expected " ++ expected) path m
  | .alias .. => r.stop

/-- Reads text: any scalar. -/
def text (expected : String) (n : Node) (path : String) : Except LoadError String :=
  match n with
  | .scalar v _ _ _ => .ok v
  | _ => .error (r.invalidType n expected path)

/-- Reads a flag: a scalar whose text spells a boolean. -/
def flag (n : Node) (path : String) : Except LoadError Bool :=
  match n with
  | .scalar v style tag _ =>
    match (if takesText (Tag.core "bool") style tag then boolText? v else none) with
    | some b => .ok b
    | none => .error (r.invalidType n "a boolean" path)
  | _ => .error (r.invalidType n "a boolean" path)

/-- Reads an unsigned 64-bit number; `expected` names the field's type. -/
def number (expected : String) (n : Node) (path : String) : Except LoadError Nat :=
  match n with
  | .scalar v style tag _ =>
    match (if takesText (Tag.core "int") style tag then readUnsigned? (Nat.pow 2 64) v else none) with
    | some k => .ok k
    | none => .error (r.invalidType n expected path)
  | _ => .error (r.invalidType n expected path)

/-- The cache mode a variant name names. -/
def modeNamed (name : String) : Except String CacheMode :=
  if name == "full" then .ok .full
  else if name == "off" then .ok .off
  else .error ("unknown variant \x60" ++ name ++ "\x60, expected \x60full\x60 or \x60off\x60")

/-- Reads a cache mode.  A node with a local tag names the mode by its tag and must
itself be an empty or null plain scalar; an untagged scalar names it by its text. -/
def mode (n : Node) (path : String) : Except LoadError CacheMode :=
  match n.tag.bind Tag.localName? with
  | some name => do
    let m ← (modeNamed name).mapError .unplaced
    match n with
    | .scalar v style _ pos =>
      if style == .plain && (v.isEmpty || isNullText v) then pure m
      else throw (.decode (notNull v) path pos)
    | _ => throw (r.invalidType n "unit" path)
  | none =>
    match n with
    | .scalar v _ _ pos => (modeNamed v).mapError fun msg => .decode msg path pos
    | _ => .error (r.invalidType n "a YAML tag starting with \x27!\x27" path)

/-- Reads an optional value.  A plain scalar is absent when it is untagged and empty or
null, or tagged null with a null text; tagged null with other text is refused. -/
def absentOr {α : Type} (read : Node → String → Except LoadError α) (n : Node) (path : String) :
    Except LoadError (Option α) :=
  match n with
  | .scalar v .plain (some t) _ =>
    if t == Tag.core "null" then
      if isNullText v then .ok none else .error (.unplaced (notNull v))
    else some <$> read n path
  | .scalar v .plain none _ => if v.isEmpty || isNullText v then .ok none else some <$> read n path
  | _ => some <$> read n path

/-- Passes over a node, failing only where the document stops inside it.  An alias
is passed over without following it. -/
def skip : Node → Except LoadError Unit
  | .scalar .. | .alias .. => .ok ()
  | .seq items closed _ _ => do
    for n in items.attach do
      let ⟨n, _⟩ := n
      skip n
    if !closed then throw r.stop
  | .map pairs closed _ _ => do
    for p in pairs.attach do
      let ⟨(k, v), _⟩ := p
      skip k
      skip v
    if !closed then throw r.stop
  | .cut => .error r.stop
termination_by n => sizeOf n
decreasing_by
  all_goals simp_wf
  · have := List.sizeOf_lt_of_mem ‹n ∈ items›; omega
  · have := List.sizeOf_lt_of_mem ‹(k, v) ∈ pairs›; simp at this; omega
  · have := List.sizeOf_lt_of_mem ‹(k, v) ∈ pairs›; simp at this; omega

/-- The entries of a record: a mapping, or an empty plain scalar (whatever its tag) for
a record with every default. -/
def entries (name : String) (n : Node) (path : String) :
    Except LoadError (List (Node × Node) × Bool × Mark) :=
  match n with
  | .map pairs closed _ m => .ok (pairs, closed, m)
  | .scalar "" .plain _ m => .ok ([], true, m)
  | _ => .error (r.invalidType n ("struct " ++ name) path)

/-- Reads a record field by field.  `known` lists the field names; `set` reads the value
of a known field into the record; other fields are passed over.  A known field named
a second time is refused at the record's position, which also places the errors of its
values that have none. -/
def record {α : Type} (name : String) (known : List String) (init : α)
    (set : String → Node → String → α → Except LoadError α) (n : Node) (path : String) :
    Except LoadError α := do
  let (pairs, closed, m) ← r.entries name n path
  let fields : Except LoadError α := do
    let mut acc := init
    let mut seen : List String := []
    for (k, v) in pairs do
      let k := r.resolve k
      let key ← match k with
        | .scalar s _ _ _ => pure s
        | .cut => throw r.stop
        | _ => throw (r.invalidType k "field identifier" path)
      if known.contains key then
        if seen.contains key then
          throw (.decode ("duplicate field \x60" ++ key ++ "\x60") path m)
        seen := key :: seen
        acc ← set key (r.resolve v) (childPath path key) acc
      else r.skip v
    if !closed then throw r.stop
    pure acc
  fields.mapError (·.placeAt path m)

/-- Reads the cache settings. -/
def cache (n : Node) (path : String) : Except LoadError CacheConfig :=
  r.record "CacheConfig"
    ["cache_mode", "cache_dir", "max_age_secs", "max_size_bytes", "memory_size_bytes", "chunk_size",
      "chunk_streams", "dir_cache_time_secs"] {}
    (fun key v p c => match key with
      | "cache_mode" => return { c with mode := ← r.mode v p }
      | "cache_dir" => return { c with dir := ← r.text "path string" v p }
      | "max_age_secs" => return { c with maxAgeSecs := ← r.number "u64" v p }
      | "max_size_bytes" => return { c with maxSizeBytes := ← absentOr (r.number "u64") v p }
      | "memory_size_bytes" => return { c with memorySizeBytes := ← r.number "usize" v p }
      | "chunk_size" => return { c with chunkSize := ← r.number "u64" v p }
      | "chunk_streams" => return { c with chunkStreams := ← r.number "usize" v p }
      | "dir_cache_time_secs" => return { c with dirCacheTimeSecs := ← r.number "u64" v p }
      | _ => pure c)
    n path

/-- Reads the metrics endpoint's settings. -/
def endpoint (n : Node) (path : String) : Except LoadError EndpointConfig :=
  r.record "MetricsEndpointConfig" ["enabled", "address"] {}
    (fun key v p c => match key with
      | "enabled" => return { c with enabled := ← r.flag v p }
      | "address" => return { c with address := ← r.text "a string" v p }
      | _ => pure c)
    n path

/-- Reads the proxy's settings. -/
def proxy (n : Node) (path : String) : Except LoadError ProxyConfig :=
  r.record "ProxyConfig"
    ["listen_address", "mount_path", "strip_query", "strip_domain", "shard_level", "max_retries",
      "min_sleep_ms", "max_sleep_ms", "connect_timeout_secs", "cache", "metrics_endpoint"] {}
    (fun key v p c => match key with
      | "listen_address" => return { c with listenAddress := ← r.text "a string" v p }
      | "mount_path" => return { c with mountPath := ← r.text "a string" v p }
      | "strip_query" => return { c with stripQuery := ← r.flag v p }
      | "strip_domain" => return { c with stripDomain := ← r.flag v p }
      | "shard_level" => return { c with shardLevel := ← r.number "usize" v p }
      | "max_retries" => return { c with maxRetries := ← r.number "usize" v p }
      | "min_sleep_ms" => return { c with minSleepMs := ← r.number "u64" v p }
      | "max_sleep_ms" => return { c with maxSleepMs := ← r.number "u64" v p }
      | "connect_timeout_secs" => return { c with connectTimeoutSecs := ← r.number "u64" v p }
      | "cache" => return { c with cache := ← r.cache v p }
      | "metrics_endpoint" => return { c with metricsEndpoint := ← absentOr r.endpoint v p }
      | _ => pure c)
    n path

end Reader

/-- Reads the configuration a document holds. -/
def ofDocument (d : Document) : Except LoadError ProxyConfig := do
  let r : Reader := {
    stop := match d.error with
      | some e => .read e
      | none => .endOfStream
    anchored := d.anchored }
  let c ← match d.root with
    | none => pure {}
    | some n => r.proxy n "."
  if let some e := d.error then throw (.read e)
  if d.more then throw .moreThanOneDocument
  pure c

/-- Reads a configuration from YAML text and checks it. -/
def ProxyConfig.fromYaml (text : String) : Except ProxyError ProxyConfig := do
  match ofDocument (parseDocument text) with
  | .error e => throw (.config ("Failed to parse config file: " ++ e.render))
  | .ok c =>
    c.validate
    pure c

/-- Reads a configuration file, given its bytes or none when it does not exist, and
checks it.  The file must hold UTF-8 text. -/
def ProxyConfig.fromFile (content : Option (List UInt8)) : Except ProxyError ProxyConfig :=
  match content with
  | none => .error (.config "Failed to read config file: No such file or directory (os error 2)")
  | some bytes =>
    match Utf8.decode? bytes with
    | none => .error (.config "Failed to read config file: stream did not contain valid UTF-8")
    | some text => ProxyConfig.fromYaml text

end ChunkProxy.Config
