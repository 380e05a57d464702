import ChunkProxy.Text.Decimal
/-!
# A directory tree

The disk below the cache directory, as a map from paths (lists of segments,
relative to the tree's root) to entries: files with their bytes and the stamp
of their last write, and directories.  The root is always a directory.

Operations fail the way the operating system makes them fail.  A path is
walked from the root: a missing directory on the way is `notFound`, a file on
the way is `notADirectory`.  At the end, writing or reading a directory is
`isADirectory`, and creating a directory where a file is is `alreadyExists`.
Stamps come from a counter, so later writes have larger stamps, as
modification times do.
-/

namespace ChunkProxy.Cache

set_option autoImplicit false

/-- Why an operation on the tree failed. -/
inductive IoFault where
  | notFound
  | notADirectory
  | isADirectory
  | alreadyExists
  deriving DecidableEq, Repr

/-- The text of a failure, with the system's error number. -/
def IoFault.message : IoFault → String
  | .notFound => "No such file or directory (os error 2)"
  | .notADirectory => "Not a directory (os error 20)"
  | .isADirectory => "Is a directory (os error 21)"
  | .alreadyExists => "File exists (os error 17)"

/-- What lives at a path. -/
inductive Entry where
  | file (data : List UInt8) (stamp : Nat)
  | dir
  deriving DecidableEq, Repr

/-- A directory tree and the stamp of its last write. -/
structure Disk where
  entries : List (List String × Entry) := []
  clock : Nat := 0
  deriving Repr

namespace Disk

/-- The entry at a path. -/
def find? (d : Disk) (p : List String) : Option Entry :=
  if p.isEmpty then some .dir else d.entries.lookup p

/-- The proper ancestors of a path, from the root down, the root excluded. -/
def ancestors (p : List String) : List (List String) :=
  (List.range (p.length - 1)).map fun k => p.take (k + 1)

/-- Walks the ancestors of a path: each must be a directory. -/
def walk (d : Disk) (p : List String) : Except IoFault Unit :=
  (ancestors p).forM fun a =>
    match d.find? a with
    | some .dir => pure ()
    | some (.file _ _) => throw .notADirectory
    | none => throw .notFound

/-- The tree without the entry at a path. -/
def erase (d : Disk) (p : List String) : Disk :=
  { d with entries := d.entries.filter (·.1 != p) }

/-- The tree with an entry set at a path. -/
def put (d : Disk) (p : List String) (e : Entry) : Disk :=
  { d with entries := (d.erase p).entries ++ [(p, e)] }

/-- Creates a directory and every missing directory above it. -/
def createDirAll (d : Disk) (p : List String) : Except IoFault Disk :=
  ((List.range p.length).map fun k => p.take (k + 1)).foldlM (fun d a =>
    match d.find? a with
    | some .dir => pure d
    | some (.file _ _) => throw (if a.length == p.length then .alreadyExists else .notADirectory)
    | none => pure (d.put a .dir)) d

/-- Writes a file, replacing one that is there. -/
def writeFile (d : Disk) (p : List String) (data : List UInt8) : Except IoFault Disk := do
  d.walk p
  match d.find? p with
  | some .dir => throw .isADirectory
  | _ =>
    let d := { d with clock := d.clock + 1 }
    pure (d.put p (.file data d.clock))

/-- The bytes of a file. -/
def readFile (d : Disk) (p : List String) : Except IoFault (List UInt8) := do
  d.walk p
  match d.find? p with
  | some (.file data _) => pure data
  | some .dir => throw .isADirectory
  | none => throw .notFound

/-- Removes a file. -/
def removeFile (d : Disk) (p : List String) : Except IoFault Disk := do
  d.walk p
  match d.find? p with
  | some (.file _ _) => pure (d.erase p)
  | some .dir => throw .isADirectory
  | none => throw .notFound

/-- Moves a file to another path, replacing a file there; it keeps its stamp. -/
def rename (d : Disk) (src dst : List String) : Except IoFault Disk := do
  d.walk src
  match d.find? src with
  | some (.file data stamp) =>
    d.walk dst
    match d.find? dst with
    | some .dir => throw .isADirectory
    | _ => pure ((d.erase src).put dst (.file data stamp))
  | some .dir => throw .isADirectory
  | none => throw .notFound

/-- The files strictly below a directory: relative path, length and stamp. -/
def filesBelow (d : Disk) (base : List String) : List (List String × Nat × Nat) :=
  d.entries.filterMap fun (p, e) =>
    match e with
    | .file data stamp =>
      if base.isPrefixOf p && p.length > base.length then
        some (p.drop base.length, data.length, stamp)
      else none
    | .dir => none

end Disk

end ChunkProxy.Cache
