import ChunkProxy.Launch.LogFilter
import ChunkProxy.Config.Load
import ChunkProxy.Listener.Client
import ChunkProxy.Vfs.Basic
/-!
# A run of the proxy

A run starts from its invocation: with no argument it takes the default
settings; with one it reads the settings from the file it names, and fails when
the file is missing or does not hold valid settings.  It then opens the caching
view over the registered URLs (which creates the cache directory when chunks are
kept), starts the metrics endpoint when that is on, and binds its listening
address.  It serves until it is told to stop, stops the cache's writer, and
ends with status 0.  A failure on the way is logged as an error and ends the
run with status 1.  A metrics endpoint that cannot bind its address is logged
as an error, and the run goes on without it.

The metrics endpoint is started before the listener is bound, but from a task
of its own, which binds its address only after the listener has bound.

Every line the run logs has a level and passes through the run's log filter,
under the program's own target.  A filter setting that cannot even be read
(`LogFilter.fromSetting`) stops the program before it starts, with status 101.  The calls made of the listeners while the run
serves meet the recorded network (`Listener.Call.miss`).
-/

namespace ChunkProxy.Launch

set_option autoImplicit false

open Config Listener

/-- The target of the program's own log lines. -/
def logTarget : String := "vfscache_proxy"

/-- Where a run takes place: its disk and the addresses other programs listen on. -/
structure Site where
  disk : Cache.Disk := {}
  host : Net.Host := {}

/-- How a run is started: with no argument, or with the path of a settings file
and its content (none when there is no such file). -/
inductive Invocation where
  | defaults
  | file (path : String) (content : Option (List UInt8))

/-- How a run ended: its status, the lines it logged that its filter let through,
and what became of the calls made while it served (none when it never served). -/
structure Outcome where
  exitCode : Nat
  log : List (Level × String)
  misses : List Miss
  deriving Repr

/-- The parts of a path, without empty and `.` parts. -/
def pathParts (path : String) : List String :=
  (path.splitOn "/").filter fun p => !p.isEmpty && p != "."

/-- The settings a run reports once they are loaded. -/
def settingsLines (c : ProxyConfig) : List String :=
  let mode := match c.cache.mode with
    | .full => "Full"
    | .off => "Off"
  ["Configuration loaded successfully", "  - Listen address: " ++ c.listenAddress,
   "  - Mount path: " ++ c.mountPath,
   "  - Key normalization: strip_query=" ++ toString c.stripQuery ++ ", strip_domain=" ++ toString c.stripDomain,
   "  - Shard level: " ++ showNat c.shardLevel, "  - Max retries: " ++ showNat c.maxRetries,
   "  - Cache mode: " ++ mode, "  - Cache dir: " ++ c.cache.dir,
   "  - Chunk size: " ++ showNat c.cache.chunkSize ++ " bytes (" ++ showNat (c.cache.chunkSize / 1024) ++ " KB)"]

/-- The remote file system of a run: the registered URLs, over the recorded
network. -/
def runFs (c : ProxyConfig) : Remote.LinkFs :=
  { name := "link", network := Remote.unreachable, shardLevel := c.shardLevel, pacer := Pacer.make c.retryPolicy }

/-- Starts a run up to serving: the lines logged and either the failure that ends
it or the host with its listener bound and the metrics endpoint's error, if any. -/
def start (site : Site) (inv : Invocation) :
    List (Level × String) × Except String (Net.Host × Option String) :=
  let (lines, loaded) : List (Level × String) × Except String ProxyConfig := match inv with
    | .defaults => ([(.info, "No configuration file given, using defaults")], .ok {})
    | .file path content =>
      ([(.info, "Loading configuration from: " ++ path)],
       match ProxyConfig.fromFile content with
       | .ok c => .ok c
       | .error e => .error ("failed to load configuration from " ++ path ++ ": " ++ e.message))
  let lines := (.info, "Starting vfscache-proxy") :: lines
  match loaded with
  | .error e => (lines, .error e)
  | .ok c =>
    let lines := lines ++ (settingsLines c).map fun l => (.info, l)
    let failed (e : String) := (lines, Except.error e)
    match Vfs.create (runFs c) c.cache (some {}) site.disk (pathParts c.cache.dir) c.cache.dir with
    | .error e => failed e.message
    | .ok _ =>
      let endpoint : Except String (Option Net.SocketAddr) := match c.metricsEndpoint with
        | some ep =>
          if ep.enabled then
            match Net.SocketAddr.parse ep.address with
            | some a => .ok (some a)
            | none => .error ("invalid metrics address " ++ ep.address ++ ": " ++ Net.invalidSyntax)
          else .ok none
        | none => .ok none
      match endpoint, c.listenAddr with
      | .error e, _ => failed e
      | .ok _, .error e => failed e.message
      | .ok ep, .ok addr =>
        match site.host.bind addr with
        | .error e => failed ("failed to bind " ++ addr.render ++ ": " ++ e)
        | .ok host =>
          match ep with
          | none => (lines, .ok (host, none))
          | some a =>
            match host.bind a with
            | .ok host => (lines, .ok (host, none))
            | .error e => (lines, .ok (host, some ("Metrics endpoint failed: " ++ e)))

/-- The lines a serving run logs once it is told to stop. -/
def stopLines : List (Level × String) := [(.info, "Shutting down server..."), (.info, "Shutdown complete")]

/-- The fields of the program's own log lines: each carries its message. -/
def logFields : List String := ["message"]

/-- The lines a filter lets through, under the program's target. -/
def LogFilter.keep (filter : LogFilter) (ls : List (Level × String)) : List (Level × String) :=
  ls.filter fun l => filter.enabled logTarget logFields l.1

/-- The status of a program stopped by a fault before it could log anything. -/
def faultStatus : Nat := 101

/-- A run with the log filter setting it finds (none when unset): it reads its
filter, starts, makes the calls (each to the address it names) while it serves,
is told to stop, and ends.  A setting whose reading faults stops the run at once. -/
def run (site : Site) (setting : Option String) (inv : Invocation) (calls : List (String × Call)) :
    Outcome :=
  match LogFilter.fromSetting setting with
  | none => { exitCode := faultStatus, log := [], misses := [] }
  | some filter =>
    match start site inv with
    | (lines, .error e) => { exitCode := 1, log := filter.keep (lines ++ [(.error, e)]), misses := [] }
    | (lines, .ok (_, endpointError)) =>
      let lines := lines ++ (endpointError.map fun e => [(Level.error, e)]).getD [] ++ stopLines
      { exitCode := 0, log := filter.keep lines, misses := calls.map fun c => c.2.miss c.1 }

end ChunkProxy.Launch
