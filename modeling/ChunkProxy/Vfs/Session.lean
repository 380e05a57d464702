import ChunkProxy.Vfs.Basic
import ChunkProxy.Remote.Table
import ChunkProxy.Cache.Session
/-!
# Sessions of the caching view

A session runs operations against the caching view of a table-held remote file
system that shares its registry with the session: registry operations, stats,
listings, reads drained to their end, the remembered-stat count, a sweep of the
expired stats, the cache's snapshot, and shutting the cache's writer down midway.  Each answer comes with the
calls the operation made of the remote side, sorted.  At the end the cache is shut
down and its snapshot taken, with the metrics.

A read is drained piece by piece until it ends or fails; the pieces before a
failure are kept.
-/

namespace ChunkProxy.Vfs

set_option autoImplicit false

open Fs Remote

/-- An operation of a session. -/
inductive Step where
  | registry (s : Registry.Step)
  | stat (path : String)
  | list (dir : String)
  | read (file : FileInfo) (range : Option ByteRange)
  | statCacheLen
  | purge
  | cacheStats
  | shutdown
  deriving Repr

/-- What an operation answers. -/
inductive Answer where
  | registry (a : Registry.Answer)
  | node (n : Node)
  | nodes (ns : List Node)
  /-- A drained read: its pieces, and the error that ended it early. -/
  | read (pieces : List (List UInt8)) (failure : Option ProxyError)
  | failed (e : ProxyError)
  | statCacheLen (n : Nat)
  | purged
  | cacheStats (s : Option Cache.Stats)
  | shutdown

/-- Drains a read: its pieces until it ends, and the error that ended it early. -/
def drain {σ : Type} [RemoteFs σ] (v : Vfs σ) (reg : Registry) (now : Nat) (r : Reading) :
    Except Fault (List (List UInt8) × Option ProxyError × Vfs σ) :=
  go r.bound r v []
where
  go : Nat → Reading → Vfs σ → List (List UInt8) →
      Except Fault (List (List UInt8) × Option ProxyError × Vfs σ)
    | 0, _, v, acc => pure (acc, none, v)
    | fuel + 1, r, v, acc => do
      match ← v.pull reg now r with
      | (none, _, v) => pure (acc, none, v)
      | (some (.ok p), r, v) => go fuel r v (acc ++ [p])
      | (some (.error e), _, v) => pure (acc, some e, v)

/-- The state of a session: the caching view over the table, and the registry. -/
structure Session where
  vfs : Vfs Table
  registry : Registry

namespace Session

/-- Applies one operation at time `now`. -/
def apply (s : Session) (now : Nat) : Step → Except Fault (Answer × Session)
  | .registry st =>
    let (a, registry) := st.apply now s.registry
    pure (.registry a, { s with registry })
  | .stat path => do
    let (res, vfs) ← s.vfs.stat s.registry path now
    let s := { s with vfs }
    match res with
    | .ok n => pure (.node n, s)
    | .error e => pure (.failed e, s)
  | .list dir => do
    let (res, vfs) ← s.vfs.list s.registry dir now
    let s := { s with vfs }
    match res with
    | .ok ns => pure (.nodes ns, s)
    | .error e => pure (.failed e, s)
  | .read file range => do
    let (res, vfs) ← s.vfs.openRead s.registry file range
    match res with
    | .error e => pure (.failed e, { s with vfs })
    | .ok r =>
      let (pieces, failure, vfs) ← drain vfs s.registry now r
      pure (.read pieces failure, { s with vfs })
  | .statCacheLen => pure (.statCacheLen s.vfs.statCache.length, s)
  | .purge => pure (.purged, { s with vfs := s.vfs.purgeExpiredStats now })
  | .cacheStats => pure (.cacheStats s.vfs.cacheStats, s)
  | .shutdown => pure (.shutdown, { s with vfs := s.vfs.shutdown })

end Session

/-- What a session ends with: each answer with the remote calls it made, the cache's
snapshot after shutdown, and the metrics. -/
structure Outcome where
  answers : List (Answer × List String)
  finalCache : Option Cache.Stats
  metrics : Metrics

/-- Runs a session over a table at time `now`; the cache directory is fresh, or stands
below a regular file when `blocked`.  The caching view's error, if it cannot open. -/
def runSession (config : Config.CacheConfig) (table : Table) (blocked : Bool) (now : Nat)
    (steps : List Step) : Except Fault (Except ProxyError Outcome) := do
  let setup : Cache.Setup :=
    { ttl := config.maxAgeSecs, memoryLimit := config.memorySizeBytes, onDisk := true, blocked }
  match Vfs.create table config (some {}) setup.disk setup.base.1 setup.base.2 with
  | .error e => pure (.error e)
  | .ok vfs =>
    let (answers, s) ← steps.foldlM (fun (acc : List (Answer × List String) × Session) step => do
      let (a, s) ← acc.2.apply now step
      let (calls, fs) := s.vfs.fs.takeCalls
      pure (acc.1 ++ [(a, calls)], { s with vfs := { s.vfs with fs } })) ([], { vfs, registry := {} })
    let vfs := s.vfs.shutdown
    pure (.ok { answers, finalCache := vfs.cacheStats, metrics := vfs.metrics.getD {} })

end ChunkProxy.Vfs
