import ChunkProxy.Url.Parse
import ChunkProxy.Digest.Md5
/-!
# Cache keys of target URLs

A target URL is turned into a cache key in two steps: it is normalised, and the
normal form is digested with MD5 into 32 lowercase hexadecimal digits.

Normalisation has two switches.  Dropping the query removes `?…` and keeps the
fragment; dropping the origin keeps only the path and the query, leaving out
scheme, credentials, host, port and fragment.  With both switches off the text
is used as it is, unread.  Otherwise the URL is read; a reference without
scheme is read against a placeholder base and keeps its relative form (a
leading `/` only when the text had one).  Text that cannot be read at all is
used as it is: a coarse key is better than a failed request.
-/

namespace ChunkProxy.Key

set_option autoImplicit false

open Url

/-- The placeholder base that relative references are read against. -/
def placeholderBase : Url :=
  { scheme := "http", host := some (.domain "relative.invalid"), path := .segments [""] }

/-- What normalisation reads from the text: the URL, and whether it was relative. -/
def readTarget (raw : String) : Option (Url × Bool) :=
  match Url.parse raw with
  | .ok u => some (u, false)
  | .error .relativeWithoutBase =>
    match Url.parse raw (some placeholderBase) with
    | .ok u => some (u, true)
    | .error _ => none
  | .error _ => none

/-- The normal form of a target URL. -/
def normalize (raw : String) (dropQuery dropOrigin : Bool) : String :=
  if !dropQuery && !dropOrigin then raw
  else
    match readTarget raw with
    | none => raw
    | some (u, relative) =>
      let u := if dropQuery then u.clearQuery else u
      if dropOrigin || relative then
        let path := u.pathText
        let path := if relative && !raw.startsWith "/" then String.ofList (path.toList.drop 1)
          else path
        path ++ u.queryText ++ (if dropOrigin then "" else u.fragmentText)
      else u.serialize

/-- The digest of a normal form. -/
def digest (normal : String) : String := Md5.hexDigest (Utf8.encode normal)

/-- The cache key of a target URL. -/
def compute (raw : String) (dropQuery dropOrigin : Bool) : String :=
  digest (normalize raw dropQuery dropOrigin)

/-- With both switches off, the text is its own normal form. -/
theorem normalize_keep (raw : String) : normalize raw false false = raw := rfl

end ChunkProxy.Key
