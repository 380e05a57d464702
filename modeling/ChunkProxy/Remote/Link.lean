import ChunkProxy.Remote.Basic
import ChunkProxy.Url.Parse
import ChunkProxy.Key.Shard
import ChunkProxy.Retry.Pacer
import ChunkProxy.Response.Plan
/-!
# Registered URLs as a remote file system

Every registered identifier is a read-only file at its sharded path; only the
leaf of a path names the file.  A file registered with a size is known without
asking its origin; any other is resolved by a one-byte ranged GET, whose answer
gives the size (the total of `Content-Range` for 206, `Content-Length` for 200),
the modification time (`Last-Modified`, else now) and the media type.  Opening a
file sends a GET with the registered headers, the caller's laid over them.

Requests go through the pacer: a request that could not be sent, or that got
one of the retryable statuses, is tried again while the budget allows.  A URL
that does not parse, has no host or is not `http` or `https` is refused before
anything is sent, and is not tried again.

Where requests go is a `Network`: what a GET of a URL answers.  The network of
the recorded runs reaches nothing: every request that is sent fails.  A resolution
is also defined against an `Upstream`, whose answers may change from one request
to the next; a network is the upstream that answers alike every time.

A directory is listed by grouping the sharded paths of all identifiers below it:
the next segment of a deeper path is a directory; a path that ends there is a file,
stat'ed in sorted order, and left out when its stat fails.  A directory exists
while some path lies below it.
-/

namespace ChunkProxy.Remote

set_option autoImplicit false

open Fs Http

/-- Why a request got no answer. -/
inductive RequestFailure where
  /-- The request could not be built: the URL does not parse (none), or cannot be
  requested (the URL as parsed). -/
  | builder (url : Option String)
  /-- The request could not be sent to the URL. -/
  | send (url : String)
  deriving DecidableEq, Repr

/-- The URL a failed request names: without its user name and password. -/
def shownUrl (u : Url) : String := { u with username := "", password := "" }.serialize

/-- The text of a failed request. -/
def RequestFailure.render : RequestFailure → String
  | .builder none => "builder error"
  | .builder (some u) => "builder error for url (" ++ u ++ ")"
  | .send u => "error sending request for url (" ++ u ++ ")"

/-- Whether a failed request is worth another attempt: only one that was sent. -/
def RequestFailure.retryable : RequestFailure → Bool
  | .builder _ => false
  | .send _ => true

/-- The error a failed request is to the proxy. -/
def RequestFailure.toError (f : RequestFailure) : ProxyError :=
  match f with
  | .builder _ => .badRequest ("invalid upstream request: " ++ f.render)
  | .send _ => .http f.render

/-- An answer to a request. -/
structure Response where
  status : Nat
  headers : Headers := {}
  body : Body := {}
  deriving DecidableEq, Repr

/-- Where requests go: what a GET of a URL with headers answers. -/
abbrev Network := Url → Headers → Except RequestFailure Response

/-- The network of the recorded runs: every request that is sent fails. -/
def unreachable : Network := fun u _ => .error (.send (shownUrl u))

/-- Builds a GET of a URL: the URL as it will be requested, or why it cannot be. -/
def prepare (url : String) : Except RequestFailure Url :=
  match Url.parse url with
  | .error _ => .error (.builder none)
  | .ok u =>
    if u.host.isNone || !(u.scheme == "http" || u.scheme == "https") then .error (.builder (some (shownUrl u)))
    else .ok u

/-- Sends a GET of a URL over a network. -/
def get (net : Network) (url : String) (headers : Headers) : Except RequestFailure Response :=
  prepare url >>= fun u => net u headers

/-- Where requests go when the answers may change from one request to the next: from what it
has seen so far, what an upstream answers a GET of a URL with headers, and what it has seen
after. -/
abbrev Upstream (υ : Type) := υ → Url → Headers → Except RequestFailure Response × υ

/-- A network as an upstream: it answers every request the same way. -/
def Network.upstream (net : Network) : Upstream Unit := fun u url headers => (net url headers, u)

/-- Sends a GET of a URL to an upstream; a URL that cannot be requested is refused before
anything reaches the upstream. -/
def sendTo {υ : Type} (up : Upstream υ) (url : String) (headers : Headers) (u : υ) :
    Except RequestFailure Response × υ :=
  match prepare url with
  | .error f => (.error f, u)
  | .ok parsed => up u parsed headers

/-- Whether an exchange is worth another attempt: a failure to send, or a retryable
status. -/
def retryableOutcome : Except RequestFailure Response → Bool
  | .ok r => isRetryStatus r.status
  | .error f => f.retryable

/-- The reason phrase of a status. -/
def reasonPhrase (status : Nat) : String :=
  match status with
  | 200 => "OK" | 206 => "Partial Content" | 301 => "Moved Permanently" | 302 => "Found"
  | 304 => "Not Modified" | 400 => "Bad Request" | 401 => "Unauthorized" | 403 => "Forbidden"
  | 404 => "Not Found" | 405 => "Method Not Allowed" | 410 => "Gone" | 412 => "Precondition Failed"
  | 416 => "Range Not Satisfiable" | 429 => "Too Many Requests" | 500 => "Internal Server Error"
  | 501 => "Not Implemented" | 502 => "Bad Gateway" | 503 => "Service Unavailable"
  | 504 => "Gateway Timeout"
  | _ => ""

/-- A status as text: the code and its reason phrase. -/
def statusText (status : Nat) : String :=
  let r := reasonPhrase status
  if r.isEmpty then showNat status else showNat status ++ " " ++ r

/-- What is learnt of an object: its length, modification time and media type. -/
structure Metadata where
  contentLength : Nat
  modified : Int
  contentType : Option String
  deriving DecidableEq, Repr

/-- The length an answer to a one-byte ranged GET reports: for 206 the total of its
`Content-Range`, otherwise its `Content-Length`, trimmed. -/
def reportedLength (r : Response) : Option Nat :=
  if r.status == 206 then (r.headers.getText? "content-range").bind ByteRange.contentRangeTotal
  else (r.headers.getText? "content-length").bind fun v => Decimal.readWord? (Text.trimBlanks v)

/-- Reads the metadata of an answer to a one-byte ranged GET, at time `now`. -/
def metadataOf (r : Response) (now : Int) : Except ProxyError Metadata :=
  if r.status != 200 && r.status != 206 then
    .error (.metadataFetch ("metadata fetch failed: status " ++ showNat r.status))
  else
    match reportedLength r with
    | none => .error .unknownSize
    | some n =>
      .ok { contentLength := n, modified := ((headerDate r.headers "last-modified").map Int.ofNat).getD now,
            contentType := r.headers.getText? "content-type" }

/-- The headers of the probe of an entry: its own, with `Range: bytes=0-0`. -/
def probeHeaders (entry : RegistryEntry) : Headers := entry.headers.insertText "range" "bytes=0-0"

/-- One attempt of the probe of an entry: a GET of its URL with the probe's headers. -/
def probeAttempt {υ : Type} (up : Upstream υ) (entry : RegistryEntry) : υ → Nat → Except RequestFailure Response × υ :=
  fun u _ => sendTo up entry.url (probeHeaders entry) u

/-- What the last attempt of a probe gives at time `now`: the metadata of its answer, or the
failure to get one. -/
def probeAnswer (entry : RegistryEntry) (now : Int) : Except RequestFailure Response → Except ProxyError Metadata
  | .error f => .error (.metadataFetch ("GET " ++ entry.url ++ " failed: " ++ f.render))
  | .ok r => metadataOf r now

/-- Resolves the metadata of a registered entry with a paced one-byte ranged GET to an upstream. -/
def resolveFrom {υ : Type} (up : Upstream υ) (pacer : Pacer) (entry : RegistryEntry) (now : Int) (u : υ) :
    Except Fault ((Except ProxyError Metadata × Pacer) × υ) := do
  let (called, pacer) ← pacer.call (probeAttempt up entry) retryableOutcome u
  pure ((probeAnswer entry now called.outcome, pacer), called.state)

/-- Resolves the metadata of a registered entry with a paced one-byte ranged GET. -/
def resolve (net : Network) (pacer : Pacer) (entry : RegistryEntry) (now : Int) :
    Except Fault (Except ProxyError Metadata × Pacer) :=
  (resolveFrom net.upstream pacer entry now ()).map Prod.fst

/-- The file system of registered URLs: its name, the network, the shard depth and the
pacer shared by all its requests. -/
structure LinkFs where
  name : String
  network : Network
  shardLevel : Nat
  pacer : Pacer

namespace LinkFs

/-- The virtual path of an identifier. -/
def pathOf (fs : LinkFs) (remote : String) : Except Fault String := Key.shardedPath remote fs.shardLevel

/-- Stats a path: the registered size, else the resolved one. -/
def stat (reg : Registry) (path : String) (now : Int) (fs : LinkFs) :
    Except Fault (Except ProxyError FileInfo × LinkFs) := do
  let remote := leafName path
  match reg.lookup remote with
  | none => pure (.error (.notFound remote), fs)
  | some e =>
    match e.known with
    | some (size, modTime) => pure (.ok { remote := path, size := some size, modTime }, fs)
    | none =>
      match ← resolve fs.network fs.pacer e now with
      | (.ok m, pacer) =>
        pure (.ok { remote := path, size := some m.contentLength, modTime := m.modified, mime := m.contentType },
          { fs with pacer })
      | (.error err, pacer) => pure (.error err, { fs with pacer })

/-- Opens a path: a paced GET with the caller's headers laid over the registered ones. -/
def openFile (reg : Registry) (path : String) (overrides : Headers) (fs : LinkFs) :
    Except Fault (Except ProxyError RemoteObject × LinkFs) := do
  let remote := leafName path
  match reg.lookup remote with
  | none => pure (.error (.notFound remote), fs)
  | some e =>
    let headers := overrides.entries.foldl (fun h kv => h.insert kv.1 kv.2) e.headers
    let (called, pacer) ←
      fs.pacer.call (fun (_ : Unit) _ => (get fs.network e.url headers, ())) retryableOutcome ()
    let fs := { fs with pacer }
    match called.outcome with
    | .error f => pure (.error f.toError, fs)
    | .ok r =>
      if r.status != 200 && r.status != 206 then
        pure (.error (ProxyError.ofStatus r.status ("GET failed: " ++ statusText r.status)), fs)
      else pure (.ok { status := r.status, body := r.body }, fs)

/-- Where a sharded path stands relative to a directory: the file it names there, the
subdirectory it passes through, or nothing when it lies elsewhere. -/
def placeBelow (dir sharded : String) : Option (Sum String String) :=
  (relativeTo dir sharded).map fun rel =>
    match rel.splitOn "/" with
    | [_] => .inl sharded
    | sub :: _ => .inr (joinDir dir sub)
    | [] => .inl sharded

/-- The sharded paths that name files directly in a directory, in sorted order. -/
def filesIn (dir : String) (paths : List String) : List String :=
  ((paths.filterMap (placeBelow dir)).filterMap fun p => match p with
    | .inl f => some f
    | .inr _ => none).mergeSort fun a b => decide (a ≤ b)

/-- The subdirectories of a directory that sharded paths pass through, each once, in sorted
order. -/
def subdirsIn (dir : String) (paths : List String) : List String :=
  (((paths.filterMap (placeBelow dir)).filterMap fun p => match p with
    | .inr d => some d
    | .inl _ => none).mergeSort fun a b => decide (a ≤ b)).eraseDups

/-- One step of a listing: stat a file, and keep its node when the stat succeeds. -/
def keepStat (reg : Registry) (now : Int) (acc : List Node × LinkFs) (path : String) :
    Except Fault (List Node × LinkFs) := do
  match ← stat reg path now acc.2 with
  | (.ok info, fs) => pure (acc.1 ++ [.file info], fs)
  | (.error _, fs) => pure (acc.1, fs)

/-- Lists a directory: its subdirectories (sorted, stamped `now`), then its files in
sorted order, leaving out those whose stat fails. -/
def list (reg : Registry) (dir : String) (now : Int) (fs : LinkFs) :
    Except Fault (Except ProxyError (List Node) × LinkFs) := do
  let dir := cleanDir dir
  let paths ← reg.identifiers.mapM fs.pathOf
  let (found, fs) ← (filesIn dir paths).foldlM (keepStat reg now) ([], fs)
  pure (.ok ((subdirsIn dir paths).map (fun d => Node.dir d now) ++ found), fs)

/-- Whether some registered path lies below a directory. -/
def dirExists (reg : Registry) (dir : String) (fs : LinkFs) : Except Fault Bool := do
  let dir := cleanDir dir
  if dir.isEmpty then return true
  let paths ← reg.identifiers.mapM fs.pathOf
  pure (paths.any fun p => p.startsWith (dir ++ "/"))

end LinkFs

instance : RemoteFs LinkFs where
  name fs := fs.name
  stat := LinkFs.stat
  openFile := LinkFs.openFile
  list := LinkFs.list
  dirExists reg d _ fs := (LinkFs.dirExists reg d fs).map fun b => (.ok b, fs)

end ChunkProxy.Remote
