import ChunkProxy.Error
import ChunkProxy.Retry.Pacer
import ChunkProxy.Net.SocketAddr
/-!
# Configuration

The proxy is configured by a document whose every field has a default:

* `listen_address` (`0.0.0.0:8080`), the socket address to serve on;
* `mount_path` (`/stream`), the path prefix requests are served under;
* `strip_query`, `strip_domain` (false), which parts of a URL its key ignores;
* `shard_level` (1), the number of two-character directory levels of a path;
* `max_retries` (10), `min_sleep_ms` (10), `max_sleep_ms` (2000), the retry policy;
* `connect_timeout_secs` (30);
* `cache`: `cache_mode` (`full` or `off`), `cache_dir`, `max_age_secs` (3600),
  `max_size_bytes` (unbounded), `memory_size_bytes` (256 MiB), `chunk_size`
  (8 MiB), `chunk_streams` (2), `dir_cache_time_secs` (0);
* `metrics_endpoint` (absent): `enabled` (false) and `address` (`127.0.0.1:9090`).

A configuration is valid when the listen address is a socket address, the mount
path starts with `/`, the minimum sleep does not exceed the maximum, the chunk
size lies between 64 KiB and 256 MiB, at least one chunk stream is allowed, the
chunk lifetime is positive when caching, and an enabled metrics endpoint has a
socket address.  The checks run in that order and the first failure is
reported.
-/

namespace ChunkProxy.Config

set_option autoImplicit false

/-- Whether chunks are kept after being served. -/
inductive CacheMode where
  | full
  | off
  deriving DecidableEq, Repr

/-- The name of a cache mode. -/
def CacheMode.name : CacheMode → String
  | .full => "full"
  | .off => "off"

/-- The default cache directory. -/
def defaultCacheDir : String := "/tmp/vfscache-proxy"

/-- The chunk cache's settings. -/
structure CacheConfig where
  mode : CacheMode := .full
  dir : String := defaultCacheDir
  maxAgeSecs : Nat := 3600
  maxSizeBytes : Option Nat := none
  memorySizeBytes : Nat := 256 * 1024 * 1024
  chunkSize : Nat := 8 * 1024 * 1024
  chunkStreams : Nat := 2
  dirCacheTimeSecs : Nat := 0
  deriving DecidableEq, Repr

/-- The metrics endpoint's settings. -/
structure EndpointConfig where
  enabled : Bool := false
  address : String := "127.0.0.1:9090"
  deriving DecidableEq, Repr

/-- The proxy's settings. -/
structure ProxyConfig where
  listenAddress : String := "0.0.0.0:8080"
  mountPath : String := "/stream"
  stripQuery : Bool := false
  stripDomain : Bool := false
  shardLevel : Nat := 1
  maxRetries : Nat := 10
  minSleepMs : Nat := 10
  maxSleepMs : Nat := 2000
  connectTimeoutSecs : Nat := 30
  cache : CacheConfig := {}
  metricsEndpoint : Option EndpointConfig := none
  deriving DecidableEq, Repr

/-- The smallest chunk size allowed. -/
def minChunkSize : Nat := 64 * 1024

/-- The largest chunk size allowed. -/
def maxChunkSize : Nat := 256 * 1024 * 1024

/-- Checks the cache settings. -/
def CacheConfig.validate (c : CacheConfig) : Except ProxyError Unit := do
  if c.chunkSize < minChunkSize || c.chunkSize > maxChunkSize then
    throw (.config ("chunk_size must be between " ++ showNat (minChunkSize / 1024) ++ "KB and " ++
      showNat (maxChunkSize / (1024 * 1024)) ++ "MB, got " ++ showNat c.chunkSize ++ " bytes"))
  if c.chunkStreams == 0 then throw (.config "chunk_streams must be greater than 0")
  if c.mode == .full && c.maxAgeSecs == 0 then
    throw (.config "max_age_secs must be greater than 0 when caching is enabled")

namespace ProxyConfig

/-- The socket address to serve on. -/
def listenAddr (c : ProxyConfig) : Except ProxyError Net.SocketAddr :=
  match Net.SocketAddr.parse c.listenAddress with
  | some a => .ok a
  | none => .error (.config ("Invalid listen_address \x27" ++ c.listenAddress ++ "\x27: " ++ Net.invalidSyntax))

/-- Checks every setting, in order. -/
def validate (c : ProxyConfig) : Except ProxyError Unit := do
  let _ ← c.listenAddr
  if !c.mountPath.startsWith "/" then
    throw (.config ("mount_path must start with \x27/\x27, got \x27" ++ c.mountPath ++ "\x27"))
  if c.minSleepMs > c.maxSleepMs then
    throw (.config ("min_sleep_ms (" ++ showNat c.minSleepMs ++ ") must not exceed max_sleep_ms (" ++
      showNat c.maxSleepMs ++ ")"))
  c.cache.validate
  match c.metricsEndpoint with
  | some e =>
    if e.enabled && (Net.SocketAddr.parse e.address).isNone then
      throw (.config ("Invalid metrics endpoint address \x27" ++ e.address ++ "\x27: " ++ Net.invalidSyntax))
  | none => pure ()

/-- The mount path without trailing slashes. -/
def normalizedMountPath (c : ProxyConfig) : String :=
  String.ofList (c.mountPath.toList.reverse.dropWhile (· == '/')).reverse

/-- The retry policy of upstream calls. -/
def retryPolicy (c : ProxyConfig) : RetryPolicy :=
  RetryPolicy.withSleep c.maxRetries (c.minSleepMs * nanosPerMilli) (c.maxSleepMs * nanosPerMilli)

end ProxyConfig

end ChunkProxy.Config
