import ChunkProxy.Handler.Session
import ChunkProxy.Remote.Link
import ChunkProxy.Net.Bind
/-!
# Clients of the listeners

The proxy listens for HTTP on one address and, when its metrics endpoint is on,
on another.  A client calls a listener with an HTTP request for a URI below the
listener's base URL (`http://` and the address), or with raw bytes written on a
fresh connection.

The network of the recorded runs reaches nothing, not even the listeners'
addresses.  An HTTP request is built first: a URI that does not make a URL with
the base fails there.  A built request fails to send, naming the URL as it was
requested.  A raw connection cannot be opened.  So no call reaches a listener;
a listener told to stop has no connection to wait for, and stops at once.
-/

namespace ChunkProxy.Listener

set_option autoImplicit false

open Http Remote

/-- A call a client makes of a listener. -/
inductive Call where
  /-- An HTTP request: the method, the URI below the base URL and the headers. -/
  | http (method : String) (uri : String) (headers : Headers)
  /-- Raw bytes on a fresh connection, whose writing side is closed after them
  when `halfClose`. -/
  | raw (bytes : List UInt8) (halfClose : Bool)
  deriving Repr

/-- Why a call got no answer. -/
inductive Miss where
  /-- The HTTP request failed before any answer, with this text. -/
  | request (text : String)
  /-- The connection could not be opened, with this text. -/
  | connect (text : String)
  deriving DecidableEq, Repr

/-- The error of opening a connection where no route leads. -/
def unreachableText : String := "Network is unreachable (os error 101)"

/-- The base URL of a listener at an address. -/
def baseUrl (addr : String) : String := "http://" ++ addr

/-- What a call to the listener at `addr` meets on the recorded network. -/
def Call.miss (addr : String) : Call → Miss
  | .http _ uri _ =>
    match prepare (baseUrl addr ++ uri) with
    | .error f => .request f.render
    | .ok u => .request (RequestFailure.send (shownUrl u)).render
  | .raw _ _ => .connect unreachableText

/-- What a server session ends with: each call's fate with the remote calls made
meanwhile, whether the listener stopped in time, the registry's size, the remote
file system's name and the metrics. -/
structure ServerOutcome where
  misses : List (Miss × List String)
  stopped : Bool
  registrySize : Nat
  fsName : String
  metrics : Metrics

/-- Runs the proxy's listener at `addr` over a remote file system whose calls
`takeCalls` collects, set up as a handler session is on a fresh cache directory,
makes the calls, and stops it.  The caching view's error, if it cannot open. -/
def runServer {σ : Type} [RemoteFs σ] (fs : σ) (takeCalls : σ → List String × σ)
    (config : Config.ProxyConfig) (addr : String) (calls : List Call) : Except ProxyError ServerOutcome := do
  let c := config.cache
  let setup : Cache.Setup := { ttl := c.maxAgeSecs, memoryLimit := c.memorySizeBytes, onDisk := true }
  let vfs ← Vfs.create fs c (some {}) setup.disk setup.base.1 setup.base.2
  let h := Handler.create vfs {} config
  let (misses, h) := calls.foldl (fun (acc : List (Miss × List String) × Handler σ) call =>
    let (made, fs) := takeCalls acc.2.vfs.fs
    (acc.1 ++ [(call.miss addr, made)], { acc.2 with vfs := { acc.2.vfs with fs } })) ([], h)
  pure { misses, stopped := true, registrySize := h.registry.size, fsName := RemoteFs.name h.vfs.fs,
         metrics := h.vfs.metrics.getD {} }

/-- How the metrics endpoint is started. -/
inductive EndpointStart where
  /-- It serves on a listener bound beforehand. -/
  | run
  /-- It binds a free address itself. -/
  | start
  /-- It binds an address another program listens on. -/
  | startBusy
  deriving DecidableEq, Repr

/-- Starts the metrics endpoint at `addr` and makes the calls: their fates, or the
error that kept it from starting. -/
def runEndpoint (how : EndpointStart) (addr : String) (calls : List Call) : Except String (List Miss) :=
  match how with
  | .startBusy => .error Net.addrInUse
  | .run | .start => .ok (calls.map (·.miss addr))

end ChunkProxy.Listener
