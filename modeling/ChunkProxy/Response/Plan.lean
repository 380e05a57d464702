import ChunkProxy.Range.Header
import ChunkProxy.Http.Header
import ChunkProxy.Http.Date
/-!
# The content plan

Before any byte of a file is read, its headers decide what the answer will be:

1. `If-Unmodified-Since` with a date before the file's modification fails the
   precondition;
2. without `If-None-Match`, `If-Modified-Since` with a date not before the
   modification answers "not modified";
3. without `Range` the whole file is sent;
4. `If-Range` that is not the exact modification date sends the whole file;
5. a `Range` value that is not text, or that does not parse against the size,
   is unsatisfiable; one range is a partial answer, several send the whole file.

Dates compare in whole seconds; a file modified before 1970 meets no condition.
Of repeated headers only the first counts.
-/

namespace ChunkProxy

set_option autoImplicit false

/-- What a request for a file of known size will be answered with. -/
inductive ContentPlan where
  | full
  | slice (range : ByteRange)
  | notModified
  | preconditionFailed
  | unsatisfiable
  deriving DecidableEq, Repr

namespace ContentPlan

/-- The name of a plan. -/
def name : ContentPlan → String
  | .full => "Full"
  | .slice _ => "Partial"
  | .notModified => "NotModified"
  | .preconditionFailed => "PreconditionFailed"
  | .unsatisfiable => "Unsatisfiable"

end ContentPlan

open Http

/-- The date of a conditional header, in seconds, when it is text and a valid HTTP date. -/
def headerDate (h : Headers) (name : String) : Option Nat :=
  (h.getText? name).bind HttpDate.parseSecs

/-- The modification time as a count of seconds, absent before the epoch. -/
def modifiedSecs (modTime : Int) : Option Nat := if modTime < 0 then none else some modTime.toNat

/-- Whether `If-Unmodified-Since` names a date the file was modified after. -/
def preconditionFails (h : Headers) (modified : Option Nat) : Bool :=
  match headerDate h "if-unmodified-since", modified with
  | some since, some m => decide (m > since)
  | _, _ => false

/-- Whether, without `If-None-Match`, `If-Modified-Since` names a date the file was not
modified after. -/
def copyCurrent (h : Headers) (modified : Option Nat) : Bool :=
  !h.contains "if-none-match" &&
    match headerDate h "if-modified-since", modified with
    | some since, some m => decide (m ≤ since)
    | _, _ => false

/-- Whether `If-Range` is absent or names exactly the modification date. -/
def ifRangeHolds (h : Headers) (modified : Option Nat) : Bool :=
  match h.get? "if-range" with
  | none => true
  | some v =>
    match (text? v).bind HttpDate.parseSecs, modified with
    | some d, some m => d == m
    | _, _ => false

/-- Decides the answer for a file of `size` bytes modified at `modTime`. -/
def planContent (h : Headers) (size : Nat) (modTime : Int) : ContentPlan :=
  let modified := modifiedSecs modTime
  if preconditionFails h modified then .preconditionFailed
  else if copyCurrent h modified then .notModified
  else
    match h.get? "range" with
    | none => .full
    | some rangeValue =>
      if !ifRangeHolds h modified then .full
      else
        match text? rangeValue with
        | none => .unsatisfiable
        | some r =>
          match ByteRange.parseHeader r size with
          | .ok [one] => .slice one
          | .ok _ => .full
          | .error _ => .unsatisfiable

end ChunkProxy
