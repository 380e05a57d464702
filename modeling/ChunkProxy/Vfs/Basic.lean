import ChunkProxy.Remote.Basic
import ChunkProxy.Cache.Tiered
import ChunkProxy.Chunk.Plan
import ChunkProxy.Metrics.Counters
import ChunkProxy.Config.Basic
/-!
# The caching view of a remote file system

The virtual file system stands between requests and a remote file system.

*Stat.*  A path is cleaned, then stat'ed as a file; when no file is there but a
directory is, it is a directory.  With a positive directory-cache time the nodes
found are remembered by path with the time of the stat, and given again without
asking while they are younger than that time; an expired one is forgotten when
its path is stat'ed, and the expired ones are swept every 256 inserts and on
request.

*Reads.*  A file of known size is read by chunks (`ChunkPlan`): each chunk comes
from the chunk cache when it is there, else from a ranged open of the remote file
(whose body is read for exactly the chunk's bytes, skipping to the chunk when the
origin ignored the range) and is then stored.  The wanted part of each chunk is
passed on, in file order.  The view reads the clock in whole seconds and hands the
chunk cache the start of that second.  A file of unknown size cannot be read by range and
streams straight from the remote side.

*Concurrency.*  Up to `chunkStreams` chunks are in flight.  A chunk whose lookup
must wait for the disk lets the chunks after it, within the window, take their
first look at memory meanwhile; the rest of their work happens when they are
reached.  A read is pulled one piece at a time, so a reader that stops early
leaves the later chunks unfetched.

Chunk hits and misses and the bytes received from upstream are counted in the
metrics, when there are metrics.
-/

namespace ChunkProxy

set_option autoImplicit false

open Fs Http Remote Cache

/-- The caching view: the remote file system's state, the chunk cache when caching,
the chunk size, the number of chunks in flight, the directory-cache time, the
remembered stats (each path with the time it was stat'ed and its node), the count of
stats remembered so far, and the metrics. -/
structure Vfs (σ : Type) where
  fs : σ
  cache : Option Tiered
  chunkSize : Nat
  chunkStreams : Nat
  dirCacheTime : Nat
  statCache : List (String × Nat × Node) := []
  statInserts : Nat := 0
  metrics : Option Metrics

/-- Where a chunk of a read stands. -/
inductive ChunkState where
  /-- Nothing has been done for it. -/
  | waiting
  /-- Memory missed; the disk lookup is under way. -/
  | diskPending
  /-- Its piece (or the error it failed with) is ready. -/
  | ready (piece : Except ProxyError (List UInt8))
  deriving Repr

/-- A chunked read: the file, where its chunks are cached, the chunks already
started (in order), and the plan of the rest. -/
structure ChunkRead where
  remote : String
  cachePath : String
  started : List (ChunkSpec × ChunkState)
  plan : ChunkPlan
  deriving Repr

/-- A read in progress. -/
inductive Reading where
  | chunks (r : ChunkRead)
  /-- A body streamed straight through: its pieces and the error it ends with. -/
  | direct (pieces : List (List UInt8)) (failure : Option ProxyError)
  | finished
  deriving Repr

/-- A bound on the pieces a read can still give. -/
def Reading.bound : Reading → Nat
  | .chunks r => r.started.length + r.plan.remaining + 1
  | .direct ps _ => ps.length + 2
  | .finished => 1

/-- The part of a chunk's bytes that was asked for. -/
def wantedPart (c : ChunkSpec) (data : List UInt8) : List UInt8 :=
  if c.isWhole then data
  else
    let (s, e) := c.offsets
    (data.take (min e data.length)).drop s

/-- Collects `len` bytes of a body after discarding the first `skip`, counting every
piece received; the error of a body that fails or ends too soon. -/
def readExact (remote : String) (pieces : List (List UInt8)) (failure : Option ProxyError)
    (skip len : Nat) (received : Nat → Metrics → Metrics) (m : Option Metrics) :
    Except ProxyError (List UInt8) × Option Metrics :=
  go pieces skip [] m
where
  go : List (List UInt8) → Nat → List UInt8 → Option Metrics → Except ProxyError (List UInt8) × Option Metrics
    | [], _, buf, m =>
      match failure with
      | some e => (.error e, m)
      | none =>
        (.error (.http ("upstream body for " ++ remote ++ " ended after " ++ showNat buf.length ++ " of " ++
          showNat len ++ " bytes")), m)
    | p :: ps, skip, buf, m =>
      let m := m.map (received p.length)
      if skip > 0 && p.length ≤ skip then go ps (skip - p.length) buf m
      else
        let p := p.drop skip
        let buf := buf ++ p.take (len - buf.length)
        if buf.length == len then (.ok buf, m) else go ps 0 buf m

/-- The chunk a read delivers next, with the chunks started after it and the plan left: the
first started chunk, else the plan's next chunk, not looked at yet. -/
def ChunkRead.current (r : ChunkRead) :
    Option ((ChunkSpec × ChunkState) × List (ChunkSpec × ChunkState)) × ChunkPlan :=
  match r.started with
  | c :: rest => (some (c, rest), r.plan)
  | [] => match r.plan.next with
    | (some c, plan) => (some ((c, .waiting), []), plan)
    | (none, plan) => (none, plan)

namespace Vfs

variable {σ : Type} [RemoteFs σ]

/-- Applies a change to the metrics, when there are metrics. -/
def record (v : Vfs σ) (f : Metrics → Metrics) : Vfs σ := { v with metrics := v.metrics.map f }

/-- Opens the caching view over a remote file system, opening the chunk cache on a
directory of a disk when caching. -/
def create (fs : σ) (c : Config.CacheConfig) (metrics : Option Metrics) (disk : Disk) (base : List String)
    (baseText : String) : Except ProxyError (Vfs σ) := do
  let cache ← match c.mode with
    | .full => some <$> Tiered.openOn disk base baseText c.maxAgeSecs c.memorySizeBytes c.maxSizeBytes
    | .off => pure none
  pure { fs, cache, chunkSize := c.chunkSize, chunkStreams := max c.chunkStreams 1,
         dirCacheTime := c.dirCacheTimeSecs, metrics }

/-- The remembered node that answers a stat of a path at `now`: one stat'ed less than the
directory-cache time ago, when stats are remembered at all. -/
def memoHit? (v : Vfs σ) (p : String) (now : Nat) : Option Node :=
  if v.dirCacheTime > 0 then
    match v.statCache.lookup p with
    | some (t, n) => if now - t < v.dirCacheTime then some n else none
    | none => none
  else none

/-- Forgets the remembered stat of a path. -/
def forgetStat (v : Vfs σ) (p : String) : Vfs σ := { v with statCache := v.statCache.filter (·.1 != p) }

/-- Keeps only the remembered stats younger than the directory-cache time. -/
def purgeExpiredStats (v : Vfs σ) (now : Nat) : Vfs σ :=
  { v with statCache := v.statCache.filter fun e => now - e.2.1 < v.dirCacheTime }

/-- How many stats are remembered between two sweeps of the expired ones. -/
def statSweepInterval : Nat := 256

/-- Remembers the stat of a path at `now` in place of an older one.  The first insert and
every 256th after it sweep the expired stats. -/
def rememberStat (v : Vfs σ) (p : String) (n : Node) (now : Nat) : Vfs σ :=
  let v' := { v with statCache := v.statCache.filter (·.1 != p) ++ [(p, now, n)], statInserts := v.statInserts + 1 }
  if v.statInserts % statSweepInterval = 0 then v'.purgeExpiredStats now else v'

/-- Asks the remote side for a path: the file there, else the directory when one is there. -/
def fetchStat (v : Vfs σ) (reg : Registry) (p : String) (now : Nat) :
    Except Fault (Except ProxyError Node × Vfs σ) := do
  let (res, fs) ← RemoteFs.stat reg p now v.fs
  let v := { v with fs }
  match res with
  | .ok info => pure (.ok (Node.file info), v)
  | .error e =>
    if e.isNotFound then do
      let (ex, fs) ← RemoteFs.dirExists reg p now v.fs
      let v := { v with fs }
      match ex with
      | .error e2 => pure (.error e2, v)
      | .ok false => pure (.error e, v)
      | .ok true => pure (.ok (Node.dir p now), v)
    else pure (.error e, v)

/-- Stats a path as a file, or as a directory when no file is there.  With a positive
directory-cache time a fresh remembered stat answers; an expired one is forgotten, and the
node the remote side gives is remembered. -/
def stat (v : Vfs σ) (reg : Registry) (path : String) (now : Nat) :
    Except Fault (Except ProxyError Node × Vfs σ) := do
  let p := cleanDir path
  if let some n := v.memoHit? p now then return (.ok n, v)
  let v := if v.dirCacheTime > 0 then v.forgetStat p else v
  let (res, v) ← v.fetchStat reg p now
  match res with
  | .ok n => pure (.ok n, if v.dirCacheTime > 0 then v.rememberStat p n now else v)
  | .error e => pure (.error e, v)

/-- Lists a directory of the remote file system. -/
def list (v : Vfs σ) (reg : Registry) (dir : String) (now : Nat) :
    Except Fault (Except ProxyError (List Node) × Vfs σ) := do
  let (res, fs) ← RemoteFs.list reg dir now v.fs
  pure (res, { v with fs })

/-- Fetches exactly a range of a file from the remote side. -/
def download (v : Vfs σ) (reg : Registry) (remote : String) (r : ByteRange) :
    Except Fault (Except ProxyError (List UInt8) × Vfs σ) := do
  let headers := Headers.empty.insertText "range" r.header
  let (res, fs) ← RemoteFs.openFile reg remote headers v.fs
  let v := { v with fs }
  match res with
  | .error e => pure (.error e, v)
  | .ok obj =>
    let skip := if obj.isPartial then 0 else r.first
    let len ← r.size
    let (res, metrics) := readExact remote obj.body.pieces obj.body.failure skip len
      (fun n m => m.recordUpstream n) v.metrics
    pure (res, { v with metrics })

/-- Fetches a chunk the cache does not have from the remote side, storing what was
fetched. -/
def fetchChunk (v : Vfs σ) (reg : Registry) (remote cachePath : String) (c : ChunkSpec) (now : Nat) :
    Except Fault (Except ProxyError (List UInt8) × Vfs σ) := do
  let v := v.record Metrics.chunkMiss
  let (res, v) ← v.download reg remote c.range
  match res with
  | .error e => pure (.error e, v)
  | .ok data =>
    let v ← match v.cache with
      | some cache => do
        let (_, cache) ← cache.store cachePath c.range data (ofEpochSecs now)
        pure { v with cache := some cache }
      | none => pure v
    pure (.ok (wantedPart c data), v)

/-- Finishes a chunk after memory missed: the disk, then the remote side. -/
def finishChunk (v : Vfs σ) (reg : Registry) (remote cachePath : String) (c : ChunkSpec) (now : Nat) :
    Except Fault (Except ProxyError (List UInt8) × Vfs σ) := do
  let (found, v) ← match v.cache with
    | some cache => do
      let (found, cache) ← cache.lookupDisk cachePath c.range (ofEpochSecs now)
      pure (found, { v with cache := some cache })
    | none => pure (none, v)
  match found with
  | some data => pure (.ok (wantedPart c data), v.record Metrics.chunkHit)
  | none => v.fetchChunk reg remote cachePath c now

/-- The first look at a chunk: memory when caching; a miss that must wait for the disk
leaves it pending, any other chunk is finished at once. -/
def firstLook (v : Vfs σ) (reg : Registry) (remote cachePath : String) (c : ChunkSpec) (now : Nat) :
    Except Fault (ChunkState × Vfs σ) := do
  match v.cache with
  | some cache =>
    let (hit, cache) := cache.lookupMemory cachePath c.range (ofEpochSecs now)
    let v := { v with cache := some cache }
    match hit with
    | some data => pure (.ready (.ok (wantedPart c data)), v.record Metrics.chunkHit)
    | none =>
      if cache.tier.isSome then pure (.diskPending, v)
      else
        let (res, v) ← v.finishChunk reg remote cachePath c now
        pure (.ready res, v)
  | none =>
    let (res, v) ← v.finishChunk reg remote cachePath c now
    pure (.ready res, v)

/-- Takes the first look at a chunk that is still waiting; any other chunk stays as it is. -/
def advance (v : Vfs σ) (reg : Registry) (remote cachePath : String) (c : ChunkSpec) (now : Nat) :
    ChunkState → Except Fault (ChunkState × Vfs σ)
  | .waiting => v.firstLook reg remote cachePath c now
  | st => pure (st, v)

/-- The chunks after the current one, within the window of `n`, started from the plan
when needed; each that was waiting takes its first look. -/
def lookAhead (v : Vfs σ) (reg : Registry) (remote cachePath : String) (now : Nat) :
    Nat → List (ChunkSpec × ChunkState) → ChunkPlan →
      Except Fault (List (ChunkSpec × ChunkState) × ChunkPlan × Vfs σ)
  | 0, rest, plan => pure (rest, plan, v)
  | n + 1, (c, st) :: rest, plan => do
    let (st, v) ← v.advance reg remote cachePath c now st
    let (rest, plan, v) ← v.lookAhead reg remote cachePath now n rest plan
    pure ((c, st) :: rest, plan, v)
  | n + 1, [], plan =>
    match plan.next with
    | (some c, plan) => do
      let (st, v) ← v.firstLook reg remote cachePath c now
      let (rest, plan, v) ← v.lookAhead reg remote cachePath now n [] plan
      pure ((c, st) :: rest, plan, v)
    | (none, plan) => pure ([], plan, v)

/-- Passes a chunk's result on: its bytes, with the read of the chunks after it, or its error,
which ends the read. -/
def deliver (r : ChunkRead) (res : Except ProxyError (List UInt8)) (rest : List (ChunkSpec × ChunkState))
    (plan : ChunkPlan) (v : Vfs σ) : Option (Except ProxyError (List UInt8)) × Reading × Vfs σ :=
  match res with
  | .ok d => (some (.ok d), Reading.chunks { r with started := rest, plan }, v)
  | .error e => (some (.error e), Reading.finished, v)

/-- Pulls the next piece of a read: none when it is over.  A read that failed is over. -/
def pull (v : Vfs σ) (reg : Registry) (now : Nat) :
    Reading → Except Fault (Option (Except ProxyError (List UInt8)) × Reading × Vfs σ)
  | .finished => pure (none, .finished, v)
  | .direct [] none => pure (none, .finished, v)
  | .direct [] (some e) => pure (some (.error e), .finished, v)
  | .direct (p :: ps) f => pure (some (.ok p), .direct ps f, v.record (Metrics.recordUpstream · p.length))
  | .chunks r => do
    let (current, plan) := r.current
    match current with
    | none => pure (none, .finished, v)
    | some ((c, st), rest) =>
      match st with
      | .ready res => pure (deliver r res rest plan v)
      | .diskPending =>
        let (res, v) ← v.finishChunk reg r.remote r.cachePath c now
        pure (deliver r res rest plan v)
      | .waiting =>
        let (st, v) ← v.firstLook reg r.remote r.cachePath c now
        match st with
        | .ready res => pure (deliver r res rest plan v)
        | _ =>
          let (rest, plan, v) ← v.lookAhead reg r.remote r.cachePath now (v.chunkStreams - 1) rest plan
          let (res, v) ← v.finishChunk reg r.remote r.cachePath c now
          pure (deliver r res rest plan v)

/-- Starts a read of a file, or of a range of it. -/
def openRead (v : Vfs σ) (reg : Registry) (file : FileInfo) (range : Option ByteRange) :
    Except Fault (Except ProxyError Reading × Vfs σ) := do
  match file.size with
  | none =>
    if range.isSome then
      return (.error (.invalidRange (file.remote ++ " has no known size")), v)
    let (res, fs) ← RemoteFs.openFile reg file.remote Headers.empty v.fs
    let v := { v with fs }
    match res with
    | .ok obj => pure (.ok (.direct obj.body.pieces obj.body.failure), v)
    | .error e => pure (.error e, v)
  | some size =>
    match ChunkPlan.make v.chunkSize size range with
    | .error e => pure (.error e, v)
    | .ok plan =>
      pure (.ok (.chunks { remote := file.remote, cachePath := versionPath file.remote size, started := [],
                           plan }), v)

/-- The cache's snapshot, when caching. -/
def cacheStats (v : Vfs σ) : Option Stats := v.cache.map (·.stats)

/-- Stops the cache's writer once every queued write is done. -/
def shutdown (v : Vfs σ) : Vfs σ := { v with cache := v.cache.map (·.shutdown) }

end Vfs

end ChunkProxy
