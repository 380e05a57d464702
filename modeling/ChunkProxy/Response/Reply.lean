import ChunkProxy.Response.Plan
import ChunkProxy.Fs.Node
import ChunkProxy.Http.Mime
/-!
# Replies

A reply is a status, headers and a body.  The body is a sequence of pieces that
may end in an error: a failure after the headers were sent can only cut the
body short.

The headers of a file give its length and `Accept-Ranges: bytes` when the size
is known, its media type (the one reported, else guessed from the extension,
else none when there is no extension), and its modification date.  Error
replies are plain text with `nosniff`; an unsatisfiable range also names the
size in `Content-Range: bytes */size`.
-/

namespace ChunkProxy

set_option autoImplicit false

open Http

/-- A body: the pieces in order, and the error that cut it short, if any. -/
structure Body where
  pieces : List (List UInt8) := []
  failure : Option ProxyError := none
  deriving DecidableEq, Repr

/-- All the bytes of a body. -/
def Body.bytes (b : Body) : List UInt8 := b.pieces.flatten

/-- A body of one piece (none when empty). -/
def Body.ofBytes (bs : List UInt8) : Body := { pieces := if bs.isEmpty then [] else [bs] }

/-- A reply to a request. -/
structure Reply where
  status : Nat
  headers : Headers := {}
  body : Body := {}
  deriving DecidableEq, Repr

/-- The media type of a file. -/
def contentType (f : Fs.FileInfo) : Option String :=
  match f.mime with
  | some m => if m.isEmpty then guess else some m
  | none => guess
where
  guess : Option String :=
    match Fs.extension f.remote with
    | none => none
    | some ext => some ((lookupMime ext).getD octetStream)

/-- The headers that describe a file; faults when its time cannot be written. -/
def fileHeaders (f : Fs.FileInfo) : Except Fault Headers := do
  let date ← HttpDate.formatSecs f.modTime
  let h : Headers := {}
  let h := match f.size with
    | some n => (h.insertText "content-length" (showNat n)).insertText "accept-ranges" "bytes"
    | none => h
  let h := match contentType f with
    | some m => if validValue (Utf8.encode m) then h.insertText "content-type" m else h
    | none => h
  pure (h.insertText "last-modified" date)

/-- A plain-text error reply. -/
def errorReply (status : Nat) (message : String) : Reply :=
  { status
    headers := (Headers.empty.insertText "content-type" "text/plain; charset=utf-8").insertText
      "x-content-type-options" "nosniff"
    body := Body.ofBytes (Utf8.encode (message ++ "\n")) }

/-- The reply to a range that overlaps nothing. -/
def unsatisfiableReply (size : Nat) : Reply :=
  let r := errorReply 416 "invalid range: failed to overlap"
  { r with headers := r.headers.insertText "content-range" ("bytes */" ++ showNat size) }

end ChunkProxy
