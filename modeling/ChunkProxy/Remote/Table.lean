import ChunkProxy.Remote.Basic
import ChunkProxy.Range.Header
/-!
# A remote file system held in a table

A table maps each URL to what lives there: its bytes, its modification time and
media type, and how it behaves when asked: a size it does not report, an error
on stat or on open, whether it honours ranges, how its body is cut into pieces,
cut short or broken off.  A list of directory paths stands for the directories
of the tree.

A path is resolved through its leaf: the leaf names a registered identifier,
whose URL is looked up in the table.  Stat reports the registered size when
there is one; otherwise the object's own length, unless it hides it.  Open
answers a `Range` header with 206 and the first range's bytes when it honours
ranges, 416 when no range fits, and 200 with every byte otherwise.  A directory
lists the configured directories whose parent it is.

Every call is recorded (`stat p`, `open p range`, `list d`), so a caller can see
what was asked of the remote side.
-/

namespace ChunkProxy.Remote

set_option autoImplicit false

open Fs Http

/-- The modification time of an object that gives none. -/
def defaultModTime : Int := 1445412480

/-- What lives at a URL of the table. -/
structure TableObject where
  content : List UInt8 := []
  modTime : Int := defaultModTime
  mime : Option String := none
  unknownSize : Bool := false
  statError : Option ProxyError := none
  isDir : Bool := false
  honorRange : Bool := true
  pieceSize : Nat := 3
  openError : Option ProxyError := none
  truncateAt : Option Nat := none
  failAt : Option Nat := none
  deriving Repr

/-- The table: objects by URL, the directory paths, and the calls made so far. -/
structure Table where
  objects : List (String × TableObject) := []
  dirs : List String := []
  calls : List String := []
  deriving Repr

/-- Splits bytes into pieces of `n` (at least one) bytes; the last may be shorter. -/
def splitPieces (n : Nat) (xs : List UInt8) : List (List UInt8) :=
  go xs.length xs
where
  go : Nat → List UInt8 → List (List UInt8)
    | 0, _ => []
    | fuel + 1, xs => if xs.isEmpty then [] else xs.take (max n 1) :: go fuel (xs.drop (max n 1))

/-- The error a broken body ends with. -/
def brokenBody : ProxyError := .http "stub body failed"

/-- The body an object sends for some bytes: cut short, split into pieces, and
broken off after `failAt` bytes when it has more. -/
def TableObject.body (o : TableObject) (data : List UInt8) : Body :=
  let data := match o.truncateAt with
    | some n => data.take n
    | none => data
  match o.failAt with
  | some n =>
    if n < data.length then { pieces := splitPieces o.pieceSize (data.take n), failure := some brokenBody }
    else { pieces := splitPieces o.pieceSize data }
  | none => { pieces := splitPieces o.pieceSize data }

namespace Table

/-- Records a call. -/
def record (t : Table) (call : String) : Table := { t with calls := t.calls ++ [call] }

/-- The object at a URL. -/
def find? (t : Table) (url : String) : Option TableObject := t.objects.lookup url

/-- Stats a path: the registered size, else the object's length unless it hides it. -/
def stat (reg : Registry) (path : String) (t : Table) : Except ProxyError FileInfo × Table :=
  let t := t.record ("stat " ++ path)
  let leaf := leafName path
  match reg.lookup leaf with
  | none => (.error (.notFound leaf), t)
  | some e =>
    match e.known with
    | some (size, _) =>
      let modTime := ((t.find? e.url).map (·.modTime)).getD defaultModTime
      (.ok { remote := path, size := some size, modTime }, t)
    | none =>
      match t.find? e.url with
      | none => (.error (.metadataFetch ("no upstream for " ++ e.url)), t)
      | some o =>
        if o.isDir then (.error (.notFound leaf), t)
        else match o.statError with
          | some err => (.error err, t)
          | none =>
            (.ok { remote := path, size := if o.unknownSize then none else some o.content.length,
                   modTime := o.modTime, mime := o.mime }, t)

/-- Opens a path with request headers laid over the registered ones. -/
def openFile (reg : Registry) (path : String) (overrides : Headers) (t : Table) :
    Except ProxyError RemoteObject × Table :=
  let range? := overrides.getText? "range"
  let t := t.record ("open " ++ path ++ " " ++ range?.getD "-")
  let leaf := leafName path
  match reg.lookup leaf with
  | none => (.error (.notFound leaf), t)
  | some e =>
    match t.find? e.url with
    | none => (.error (.originClient 404 "GET failed: 404 Not Found"), t)
    | some o =>
      match o.openError with
      | some err => (.error err, t)
      | none =>
        let headers := overrides.entries.foldl (fun h kv => h.insert kv.1 kv.2) e.headers
        match headers.getText? "range", o.honorRange with
        | some r, true =>
          match ByteRange.parseHeader r o.content.length with
          | .ok (first :: _) =>
            let slice := (o.content.drop first.first).take (first.last + 1 - first.first)
            (.ok { status := 206, body := o.body slice }, t)
          | _ => (.error (.originClient 416 "GET failed: 416 Range Not Satisfiable"), t)
        | _, _ => (.ok { status := 200, body := o.body o.content }, t)

/-- The configured directories directly below a directory. -/
def list (_reg : Registry) (dir : String) (now : Int) (t : Table) : Except ProxyError (List Node) × Table :=
  let t := t.record ("list " ++ dir)
  let d := cleanDir dir
  (.ok ((t.dirs.filter fun p => parentDir p == d).map fun p => .dir p now), t)

/-- Takes the recorded calls, sorted, and forgets them. -/
def takeCalls (t : Table) : List String × Table :=
  (t.calls.mergeSort fun a b => decide (a ≤ b), { t with calls := [] })

end Table

instance : RemoteFs Table where
  name _ := "stub"
  stat reg p _ t := .ok (Table.stat reg p t)
  openFile reg p h t := .ok (Table.openFile reg p h t)
  list reg d now t := .ok (Table.list reg d now t)
  dirExists := listedDirExists fun reg d now t => .ok (Table.list reg d now t)

end ChunkProxy.Remote
