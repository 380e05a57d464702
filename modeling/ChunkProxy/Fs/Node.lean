import ChunkProxy.Fs.Path
/-!
# Files and directories of the virtual tree

A file is known by its virtual path (shard directories included), its size when
known, its modification time in seconds since the epoch, and the media type
its origin reported.  A node of the tree is a file or a directory.
-/

namespace ChunkProxy.Fs

set_option autoImplicit false

/-- What is known of a file. -/
structure FileInfo where
  remote : String
  size : Option Nat
  modTime : Int
  mime : Option String := none
  deriving DecidableEq, Repr

/-- The name of a file: the leaf of its path. -/
def FileInfo.name (f : FileInfo) : String := leafName f.remote

/-- A node of the virtual tree. -/
inductive Node where
  | file (info : FileInfo)
  | dir (path : String) (modTime : Int)
  deriving DecidableEq, Repr

namespace Node

/-- The path of a node. -/
def path : Node → String
  | .file info => info.remote
  | .dir p _ => p

/-- The file of a node, if it is one. -/
def file? : Node → Option FileInfo
  | .file info => some info
  | .dir _ _ => none

end Node

end ChunkProxy.Fs
