import ChunkProxy.Http.Uri
import ChunkProxy.Http.Header
import ChunkProxy.Bytes.Base64
import ChunkProxy.Error
import ChunkProxy.Text.Blank
/-!
# What a request asks for

A request under the mount path names its upstream target either in the `url`
query parameter or as base64 in the path after the mount.  A non-empty `url`
parameter wins; without one, an empty rest of the path names nothing; the rest
is otherwise decoded as base64 in the URL-safe alphabet unpadded or padded,
then the standard alphabet padded or unpadded, and must be UTF-8.  A target
that is blank is refused.

A request may also state the object's size, in the `size` parameter or the
`X-File-Size` header; the parameter wins even when it is not a number, and the
value is trimmed and read as a decimal word.
-/

namespace ChunkProxy.Handler

set_option autoImplicit false

open Http

/-- The mount path without trailing slashes. -/
def normalizeMount (mount : String) : String :=
  String.ofList (mount.toList.reverse.dropWhile (· == '/')).reverse

/-- Whether a request path lies under the mount: the mount itself or below a slash. -/
def matchesMount (mount path : String) : Bool :=
  match path.dropPrefix? mount with
  | some rest => rest.isEmpty || rest.startsWith "/"
  | none => false

/-- The message for a request that names no target. -/
def missingTarget : String := "Missing \x27url\x27 parameter or base64 path"

/-- The dialects a base64 path segment is tried in, in order: URL-safe unpadded and padded,
then standard padded and unpadded. -/
def pathDialects : List Base64.Dialect :=
  [⟨Base64.urlSafe, false⟩, ⟨Base64.urlSafe, true⟩, ⟨Base64.standard, true⟩, ⟨Base64.standard, false⟩]

/-- Decodes a base64 path segment into a target URL. -/
def decodeBase64Target (encoded : String) : Except ProxyError String :=
  match pathDialects.findSome? (fun d => Base64.decode d encoded) with
  | none => .error (.badRequest "Invalid base64 path")
  | some bytes =>
    match Utf8.decode? bytes with
    | some s => .ok s
    | none => .error (.badRequest "Invalid base64 path")

/-- The `url` parameter of a request, when it is there and not empty. -/
def urlParam (t : Target) : Option String := (t.param "url").filter (!·.isEmpty)

/-- The path of a request below the mount, without its leading slashes. -/
def belowMount (mount : String) (t : Target) : String :=
  let rest :=
    match t.path.dropPrefix? mount with
    | some r => r.toString
    | none => t.path
  String.ofList (rest.toList.dropWhile (· == '/'))

/-- The target a request chooses: its `url` parameter when it has one, else the text that the
path below the mount names, empty when that path is. -/
def chooseTarget (mount : String) (t : Target) : Except ProxyError String :=
  match urlParam t with
  | some url => pure url
  | none =>
    let rest := belowMount mount t
    if rest.isEmpty then pure "" else decodeBase64Target rest

/-- The target URL a request names: the chosen target, unless it is blank. -/
def targetUrl (mount : String) (t : Target) : Except ProxyError String := do
  let target ← chooseTarget mount t
  if (Text.trimBlanks target).isEmpty then throw (.badRequest missingTarget)
  pure target

/-- The header that states an object's size. -/
def sizeHeader : String := "x-file-size"

/-- The size a request states for its object. -/
def sizeHint (t : Target) (h : Headers) : Option Nat :=
  let raw := (t.param "size").orElse fun _ => h.getText? sizeHeader
  raw.bind fun r => Decimal.readWord? (Text.trimBlanks r)

end ChunkProxy.Handler
