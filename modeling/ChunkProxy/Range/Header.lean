import ChunkProxy.Range.Basic
import ChunkProxy.Text.Blank
/-!
# The Range request header

A Range header asks for byte ranges of a resource of known size.  Its value,
trimmed of blanks, is `bytes=` and a comma-separated list of specs, each
trimmed and the empty ones skipped:

* `a-b` asks for bytes `a` to `b`; `a` after `b` is an error, and `b` past the
  end is cut to the last byte;
* `a-` asks for everything from `a`;
* `-n` asks for the last `n` bytes (all of them when `n` exceeds the size).

A spec that starts at or after the end, or a suffix of zero bytes (or any
suffix of an empty resource), overlaps nothing and is dropped.  The answer is
the list of ranges in the order asked, or an error when the header is
malformed or nothing overlaps.
-/

namespace ChunkProxy

set_option autoImplicit false

namespace ByteRange

/-- The error for a malformed or unsatisfiable header. -/
def rangeError (detail : String) : ProxyError := .invalidRange detail

/-- Reads one number of a spec, naming the part when it fails. -/
def readPart (what : String) (text : String) : Except ProxyError Nat :=
  match Decimal.readWord text with
  | .ok n => .ok n
  | .error e =>
    .error (rangeError ("Invalid " ++ what ++ " \x27" ++ text ++ "\x27: " ++ e.message))

/-- What one spec contributes: a range, nothing (it overlaps nothing), or an error. -/
def readSpec (size : Nat) (spec : String) : Except ProxyError (Option ByteRange) := do
  let cs := spec.toList
  if !cs.contains '-' then throw (rangeError ("Invalid range spec: " ++ spec))
  let startText := Text.trimBlanks (String.ofList (cs.takeWhile (· ≠ '-')))
  let endText := Text.trimBlanks (String.ofList ((cs.dropWhile (· ≠ '-')).drop 1))
  if startText.isEmpty then
    let suffix ← readPart "suffix length" endText
    if suffix == 0 || size == 0 then return none
    let suffix := min suffix size
    return some ⟨size - suffix, size - 1⟩
  let first ← readPart "start value" startText
  let last ←
    if endText.isEmpty then pure none
    else do
      let last ← readPart "end value" endText
      if first > last then
        throw (rangeError ("start (" ++ showNat first ++ ") must be <= end (" ++ showNat last ++ ")"))
      pure (some last)
  if first ≥ size then return none
  return some ⟨first, (last.map (min · (size - 1))).getD (size - 1)⟩

/-- Adds what one comma-separated piece of a header asks for to the ranges so far: nothing
for a blank piece, else the range its spec reads as, or a mark that it overlaps nothing. -/
def addSpec (size : Nat) (acc : List ByteRange × Bool) (piece : String) :
    Except ProxyError (List ByteRange × Bool) := do
  let spec := Text.trimBlanks piece
  if spec.isEmpty then return acc
  match ← readSpec size spec with
  | some r => return (acc.1 ++ [r], acc.2)
  | none => return (acc.1, true)

/-- Reads a Range header against a resource of `size` bytes. -/
def parseHeader (header : String) (size : Nat) : Except ProxyError (List ByteRange) := do
  let header := Text.trimBlanks header
  let specs ←
    match header.dropPrefix? "bytes=" with
    | some rest => pure rest.toString
    | none => throw (rangeError ("Range header must start with \x27bytes=\x27, got: " ++ header))
  let (ranges, dropped) ← (specs.splitOn ",").foldlM (addSpec size) ([], false)
  if ranges.isEmpty then
    if dropped then throw (rangeError ("no range overlaps a resource of " ++ showNat size ++ " bytes"))
    else throw (rangeError ("empty range set: " ++ header))
  return ranges

/-- Splits at the first occurrence of a character. -/
def splitOnce (c : Char) (s : String) : Option (String × String) :=
  let cs := s.toList
  if cs.contains c then
    some (String.ofList (cs.takeWhile (· ≠ c)), String.ofList ((cs.dropWhile (· ≠ c)).drop 1))
  else none

/-- The total length a Content-Range value `bytes a-b/total` states; none for an
unknown total, a malformed value, or a range that does not fit the total. -/
def contentRangeTotal (value : String) : Option Nat := do
  let spec ← ((Text.trimBlanks value).dropPrefix? "bytes ").map (·.toString)
  let (range, total) ← splitOnce '/' spec
  let (first, last) ← splitOnce '-' range
  let first ← Decimal.readWord? (Text.trimBlanks first)
  let last ← Decimal.readWord? (Text.trimBlanks last)
  let total ← Decimal.readWord? (Text.trimBlanks total)
  if first > last || last ≥ total then none else some total

end ByteRange

end ChunkProxy
