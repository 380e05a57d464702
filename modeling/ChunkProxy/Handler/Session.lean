import ChunkProxy.Handler.Serve
import ChunkProxy.Cache.Session
/-!
# Sessions of the handler

A session sends requests, in order, to a handler over a caching view of a remote
file system; the handler and the remote side share one registry.  A request whose
target does not read is refused before it reaches the handler, and one whose
path lies outside the mount path is not handled.  Every answer's body is read by a
client that keeps at most `maxBody` bytes (`Handler.receive`).  Each exchange also
records the calls made of the remote side, the registry's size, the number of
remembered stats and the cache's snapshot.  At the end the cache is shut down and
its snapshot taken, with the metrics.
-/

namespace ChunkProxy.Handler

set_option autoImplicit false

open Remote

/-- What became of a request. -/
inductive Response where
  /-- Its target does not read. -/
  | refused (error : Http.UriError)
  /-- Its path lies outside the mount path. -/
  | unmatched
  /-- It was answered with a status and headers, and its body was read. -/
  | answered (status : Nat) (headers : Http.Headers) (body : Handler.Received)
  deriving Repr

/-- One exchange of a session: the response, the remote calls it made (sorted), the
registry's size, the number of remembered stats and the cache's snapshot. -/
structure Exchange where
  response : Response
  calls : List String
  registrySize : Nat
  statCacheLen : Nat
  cache : Option Cache.Stats

/-- What a session ends with. -/
structure Outcome where
  exchanges : List Exchange
  registry : Registry
  memo : Key.Memo
  finalCache : Option Cache.Stats
  metrics : Option Metrics
  fsName : String

/-- Runs a session at time `now` over a remote file system whose calls `takeCalls`
collects; with `counting` the session keeps metrics.  The cache directory is fresh,
or stands below a regular file when `blocked`; the caching view's error, if it
cannot open. -/
def runSession {σ : Type} [RemoteFs σ] (fs : σ) (takeCalls : σ → List String × σ)
    (config : Config.ProxyConfig) (counting blocked : Bool) (maxBody now : Nat) (requests : List (Except Http.UriError Request)) :
    Except Fault (Except ProxyError Outcome) := do
  let c := config.cache
  let setup : Cache.Setup := { ttl := c.maxAgeSecs, memoryLimit := c.memorySizeBytes, onDisk := true, blocked }
  let metrics : Option Metrics := if counting then some {} else none
  match Vfs.create fs c metrics setup.disk setup.base.1 setup.base.2 with
  | .error e => pure (.error e)
  | .ok vfs =>
    let h := Handler.create vfs {} config
    let (exchanges, h) ← requests.foldlM (fun (acc : List Exchange × Handler σ) req => do
      let h := acc.2
      let (response, h) ←
        match req with
        | .error e => pure (Response.refused e, h)
        | .ok req =>
          if h.covers req.target.path then do
            let (a, h) ← h.handle req now
            let (body, h) ← h.receive a.payload maxBody now
            pure (Response.answered a.status a.headers body, h)
          else pure (Response.unmatched, h)
      let (calls, fs) := takeCalls h.vfs.fs
      let h := { h with vfs := { h.vfs with fs } }
      let x : Exchange :=
        { response, calls, registrySize := h.registry.size, statCacheLen := h.vfs.statCache.length,
          cache := h.vfs.cacheStats }
      pure (acc.1 ++ [x], h)) ([], h)
    let vfs := h.vfs.shutdown
    pure (.ok { exchanges, registry := h.registry, memo := h.memo, finalCache := vfs.cacheStats,
                metrics := vfs.metrics, fsName := RemoteFs.name vfs.fs })

end ChunkProxy.Handler
