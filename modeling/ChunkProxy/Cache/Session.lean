import ChunkProxy.Cache.Tiered
/-!
# A run of operations on one cache

A session opens a cache (in memory only, or on a fresh directory) and applies
operations to it in order: stores, lookups, snapshots, and, on disk, a flush
that stops the writer, lists the files and opens a new cache on the same
directory, plus direct changes to the files below the directory.  Writes
happen as they are queued, so waiting for them returns at once.

When the directory cannot be created (it lies below a regular file) the
session ends with the cache's error.
-/

namespace ChunkProxy.Cache

set_option autoImplicit false

/-- One operation of a session. -/
inductive Step where
  | store (remote : String) (range : ByteRange) (data : List UInt8)
  | lookup (remote : String) (range : ByteRange)
  | stats
  | flush
  | writeFile (path : String) (data : List UInt8)
  | makeDir (path : String)
  | removePath (path : String)
  | waitWrites (count : Nat)
  deriving Repr

/-- What an operation answers. -/
inductive Outcome where
  | done
  | refused (e : ProxyError)
  | hit (data : Option (List UInt8))
  | snapshot (s : Stats) (withDisk : Bool)
  | flushed (s : Stats) (files : List String)
  | ioFailed (e : IoFault)
  deriving Repr

/-- How a session's cache is set up. -/
structure Setup where
  ttl : Nat
  memoryLimit : Nat
  onDisk : Bool
  diskLimit : Option Nat := none
  blocked : Bool := false
  deriving Repr

/-- The directory of the cache and its name in messages. -/
def Setup.base (s : Setup) : List String × String :=
  if s.blocked then (["file", "cache"], "<dir>/file/cache") else (["cache"], "<dir>/cache")

/-- The disk a session starts on: empty, or with a regular file where the directory
should go. -/
def Setup.disk (s : Setup) : Disk :=
  if s.blocked then { entries := [(["file"], .file [] 0)] } else {}

/-- Opens the cache of a session. -/
def Setup.start (s : Setup) : Except ProxyError Tiered :=
  if s.onDisk then Tiered.openOn s.disk s.base.1 s.base.2 s.ttl s.memoryLimit s.diskLimit
  else .ok (Tiered.memoryOnly s.ttl s.memoryLimit)

/-- A path below the cache directory. -/
def below (c : Tiered) (path : String) : List String :=
  (c.tier.map (·.base)).getD [] ++ (path.splitOn "/").filter (!·.isEmpty)

/-- Applies one operation at time `now`. -/
def Step.apply (s : Setup) (now : Time) (c : Tiered) : Step → Except Fault (Outcome × Tiered)
  | .store remote r data => do
    let (res, c) ← c.store remote r data now
    match res with
    | .ok () => pure (.done, c)
    | .error e => pure (.refused e, c)
  | .lookup remote r => do
    let (hit, c) ← c.lookup remote r now
    pure (.hit hit, c)
  | .stats => pure (.snapshot c.stats c.tier.isNone, c)
  | .flush =>
    let c := c.shutdown
    let files := c.files
    match Tiered.openOn c.disk s.base.1 s.base.2 s.ttl s.memoryLimit s.diskLimit with
    | .ok fresh => pure (.flushed c.stats files, fresh)
    | .error e => pure (.refused e, c)
  | .writeFile path data =>
    let p := below c path
    match c.disk.createDirAll p.dropLast >>= fun d => d.writeFile p data with
    | .ok disk => pure (.done, { c with disk })
    | .error e => pure (.ioFailed e, c)
  | .makeDir path =>
    match c.disk.createDirAll (below c path) with
    | .ok disk => pure (.done, { c with disk })
    | .error e => pure (.ioFailed e, c)
  | .removePath path =>
    match c.disk.removeFile (below c path) with
    | .ok disk => pure (.done, { c with disk })
    | .error e => pure (.ioFailed e, c)
  | .waitWrites _ => pure (.snapshot c.stats true, c)

/-- Runs a session: the cache's error, or each operation's answer. -/
def run (s : Setup) (now : Time) (steps : List Step) : Except Fault (Except ProxyError (List Outcome)) :=
  match s.start with
  | .error e => pure (.error e)
  | .ok c => do
    let (outs, _) ← steps.foldlM (fun (acc : List Outcome × Tiered) step => do
      let (o, c) ← step.apply s now acc.2
      pure (acc.1 ++ [o], c)) ([], c)
    pure (.ok outs)

end ChunkProxy.Cache
