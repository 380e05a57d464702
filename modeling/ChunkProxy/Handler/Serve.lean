import ChunkProxy.Vfs.Basic
import ChunkProxy.Handler.Target
import ChunkProxy.Key.Memo
import ChunkProxy.Key.Shard
/-!
# Serving requests

A request names its target URL (`Handler.targetUrl`).  The URL's key is
remembered (`Key.Memo`), the URL is registered under it (with the size the
request states, when it states one, and the headers that may be replayed), and
the key's sharded path is stat'ed through the caching view.

* Methods other than GET and HEAD get 405 with `Allow: GET, HEAD`; a request
  without a usable target gets 400.
* A directory gets 404 "Not a file"; a path that is not there, or whose
  resolution failed as a 404 would, gets 404 "File not found"; any other stat
  failure gets 500.
* HEAD gets the file's headers and no body.
* A file of known size is answered by the content plan: 304 without media type
  and length, 412, 416 naming the size, or the file (200) or a range of it (206,
  with `Content-Range` and the range's length), read through the caching view.
* A file of unknown size cannot be read by range (416); otherwise it streams.
* A read that cannot start gets 500 "Failed to open file".

Every stat outcome and every answered status are counted in the metrics.
-/

namespace ChunkProxy.Handler

set_option autoImplicit false

open Fs Http Remote

/-- A request as the handler sees it: the method, the target and the headers. -/
structure Request where
  method : String
  target : Target
  headers : Headers := {}
  deriving Repr

/-- The body of an answer: bytes at hand, or a read still to be pulled. -/
inductive Payload where
  | fixed (b : Body)
  | stream (r : Reading)
  deriving Repr

/-- An answer: status, headers and body. -/
structure Answer where
  status : Nat
  headers : Headers := {}
  payload : Payload := .fixed {}
  deriving Repr

/-- An answer made of a reply. -/
def Answer.ofReply (r : Reply) : Answer := { status := r.status, headers := r.headers, payload := .fixed r.body }

end ChunkProxy.Handler

namespace ChunkProxy

/-- The handler: the caching view, the registry it shares with the remote side, the
remembered keys, the shard depth and the mount path. -/
structure Handler (σ : Type) where
  vfs : Vfs σ
  registry : Registry
  memo : Key.Memo
  shardLevel : Nat
  mountPath : String

end ChunkProxy

namespace ChunkProxy.Handler

set_option autoImplicit false

open Fs Http Remote

variable {σ : Type} [RemoteFs σ]

/-- A handler over a caching view, configured by the proxy's settings. -/
def create (vfs : Vfs σ) (registry : Registry) (c : Config.ProxyConfig) : Handler σ :=
  { vfs, registry, memo := Key.Memo.empty c.stripQuery c.stripDomain, shardLevel := c.shardLevel,
    mountPath := c.normalizedMountPath }

/-- Whether a request path lies under the mount path. -/
def covers (h : Handler σ) (path : String) : Bool := matchesMount h.mountPath path

/-- Counts a stat outcome. -/
def recordStat (h : Handler σ) (r : StatResult) : Handler σ :=
  { h with vfs := h.vfs.record (·.recordStat r) }

/-- Streams a file of known size, whole or a range of it, through the caching view. -/
def streamContent (h : Handler σ) (info : FileInfo) (size : Nat) (headers : Headers) (range : Option ByteRange) :
    Except Fault (Answer × Handler σ) := do
  let (res, vfs) ← h.vfs.openRead h.registry info range
  let h := { h with vfs }
  match res with
  | .error _ => pure (.ofReply (errorReply 500 "Failed to open file"), h)
  | .ok reading =>
    match range with
    | some r =>
      let len ← r.size
      let headers := (headers.insertText "content-range" (r.contentRange size)).insertText "content-length"
        (showNat len)
      pure ({ status := 206, headers, payload := .stream reading }, h)
    | none => pure ({ status := 200, headers, payload := .stream reading }, h)

/-- Serves a file of known size by its content plan. -/
def serveKnown (h : Handler σ) (req : Request) (info : FileInfo) (size : Nat) (headers : Headers) :
    Except Fault (Answer × Handler σ) :=
  match planContent req.headers size info.modTime with
  | .full => h.streamContent info size headers none
  | .slice r => h.streamContent info size headers (some r)
  | .notModified => pure ({ status := 304, headers := (headers.erase "content-type").erase "content-length" }, h)
  | .preconditionFailed => pure (.ofReply (errorReply 412 "Precondition failed"), h)
  | .unsatisfiable => pure (.ofReply (unsatisfiableReply size), h)

/-- Serves a file of unknown size: only whole, streamed straight through. -/
def serveUnknown (h : Handler σ) (req : Request) (info : FileInfo) (headers : Headers) :
    Except Fault (Answer × Handler σ) := do
  if req.headers.contains "range" then
    return (.ofReply (errorReply 416 "Can\x27t use Range: on file with unknown length"), h)
  let (res, vfs) ← h.vfs.openRead h.registry info none
  let h := { h with vfs }
  match res with
  | .error _ => pure (.ofReply (errorReply 500 "Failed to open file"), h)
  | .ok reading => pure ({ status := 200, headers, payload := .stream reading }, h)

/-- Answers a request for a file: its headers alone for HEAD, else its content, by size. -/
def answerFile (h : Handler σ) (req : Request) (info : FileInfo) : Except Fault (Answer × Handler σ) := do
  let headers ← fileHeaders info
  if req.method == "HEAD" then return ({ status := 200, headers }, h)
  match info.size with
  | some size => h.serveKnown req info size headers
  | none => h.serveUnknown req info headers

/-- Registers the target of a request: remembers the target's key and registers the target
under it, with the size the request states when it states one and the headers that may
be replayed, and counts the registry's size.  Gives the key. -/
def registerTarget (h : Handler σ) (req : Request) (target : String) (now : Nat) : String × Handler σ :=
  let (key, memo) := h.memo.keyOf target
  let headers := replayableHeaders req.headers
  let registry := match sizeHint req.target req.headers with
    | some size => (h.registry.registerWithSize key target headers size now).2
    | none => (h.registry.register key target headers).2
  (key, { h with memo, registry, vfs := h.vfs.record (·.setRegistryEntries registry.size) })

/-- Answers a request by the stat of a path: a directory, a path that is not there or a
failed resolution by an error, a file by `answerFile`. -/
def answerStat (h : Handler σ) (req : Request) (path : String) (now : Nat) :
    Except Fault (Answer × Handler σ) := do
  let (res, vfs) ← h.vfs.stat h.registry path now
  let h := { h with vfs }
  match res with
  | .ok (.dir _ _) => return (.ofReply (errorReply 404 "Not a file"), h.recordStat .notAFile)
  | .error e =>
    if e.isNotFound then return (.ofReply (errorReply 404 "File not found"), h.recordStat .notRegistered)
    else if e.httpStatus == 404 then
      return (.ofReply (errorReply 404 "File not found"), h.recordStat .resolveFailed)
    else return (.ofReply (errorReply 500 "Internal server error"), h.recordStat .resolveFailed)
  | .ok (.file info) => (h.recordStat .found).answerFile req info

/-- Serves a request at time `now`. -/
def serve (h : Handler σ) (req : Request) (now : Nat) : Except Fault (Answer × Handler σ) := do
  if req.method != "GET" && req.method != "HEAD" then
    let r := errorReply 405 "Method not allowed"
    return (.ofReply { r with headers := r.headers.insertText "allow" "GET, HEAD" }, h)
  match targetUrl h.mountPath req.target with
  | .error e =>
    let message := match e with
      | .badRequest m => m
      | other => other.message
    return (.ofReply (errorReply 400 message), h)
  | .ok target =>
    let (key, h) := h.registerTarget req target now
    let path ← Key.shardedPath key h.shardLevel
    h.answerStat req path now

/-- Handles a request at time `now`: serves it and counts its status. -/
def handle (h : Handler σ) (req : Request) (now : Nat) : Except Fault (Answer × Handler σ) := do
  let (a, h) ← h.serve req now
  pure (a, { h with vfs := h.vfs.record (·.recordRequest a.status 0) })

/-- A body read by a client that keeps at most `maxBody` bytes: the bytes, the error
that cut the body short, and whether more was there (in the last piece read, or in
one more piece pulled once the limit was reached). -/
structure Received where
  bytes : List UInt8
  failure : Option ProxyError
  truncated : Bool
  deriving Repr

/-- Reads an answer's body as a client keeping at most `maxBody` bytes. -/
def receive (h : Handler σ) (p : Payload) (maxBody : Nat) (now : Nat) :
    Except Fault (Received × Handler σ) :=
  match p with
  | .fixed b =>
    let bytes := b.bytes
    pure ({ bytes := bytes.take maxBody, failure := if bytes.length ≤ maxBody then b.failure else none,
            truncated := bytes.length > maxBody }, h)
  | .stream r => go r.bound r h []
where
  go : Nat → Reading → Handler σ → List UInt8 → Except Fault (Received × Handler σ)
    | 0, _, h, acc => pure ({ bytes := acc, failure := none, truncated := false }, h)
    | fuel + 1, r, h, acc => do
      if acc.length ≥ maxBody then
        let (next, _, vfs) ← h.vfs.pull h.registry now r
        let h := { h with vfs }
        match next with
        | some (.ok d) => pure ({ bytes := acc, failure := none, truncated := !d.isEmpty }, h)
        | some (.error e) => pure ({ bytes := acc, failure := some e, truncated := false }, h)
        | none => pure ({ bytes := acc, failure := none, truncated := false }, h)
      else
        let (next, r, vfs) ← h.vfs.pull h.registry now r
        let h := { h with vfs }
        match next with
        | none => pure ({ bytes := acc, failure := none, truncated := false }, h)
        | some (.error e) => pure ({ bytes := acc, failure := some e, truncated := false }, h)
        | some (.ok d) =>
          let room := maxBody - acc.length
          if d.length > room then pure ({ bytes := acc ++ d.take room, failure := none, truncated := true }, h)
          else go fuel r h (acc ++ d)

end ChunkProxy.Handler
