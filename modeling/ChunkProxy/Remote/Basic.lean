import ChunkProxy.Registry
import ChunkProxy.Fault
import ChunkProxy.Response.Reply
/-!
# Remote file systems

The virtual file system reads through a remote file system: something that can
stat a file, open it (with request headers such as `Range` laid over the stored
ones), list a directory and tell whether a directory exists.  Every registered
identifier is a file at its sharded path, so each operation is given the registry
to resolve paths with.

A remote file system has its own state (what it has been asked, how it paces
its calls), threaded through each operation.  Writing operations are refused:
the tree is read-only.

An opened object carries the status its origin answered, 206 when a requested
range was honoured, and its body.
-/

namespace ChunkProxy.Remote

set_option autoImplicit false

open Fs Http

/-- An opened remote object: the origin's status and the body. -/
structure RemoteObject where
  status : Nat
  body : Body
  deriving DecidableEq, Repr

/-- Whether the origin honoured the requested range. -/
def RemoteObject.isPartial (o : RemoteObject) : Bool := o.status == 206

/-- The debugging text of an opened object: its status only. -/
def RemoteObject.debugText (o : RemoteObject) : String :=
  "RemoteObject \x7b status: " ++ showNat o.status ++ ", .. \x7d"

/-- What an operation of a remote file system gives: a fault, which stops the program,
or its result with the new state. -/
abbrev Outcome (σ α : Type) := Except Fault (Except ProxyError α × σ)

/-- The operations of a read-only remote file system with state `σ`.  Each is given
the registry; `stat`, `list` and `dirExists` are also given the time `now`, for what
they learn or make at that time. -/
class RemoteFs (σ : Type) where
  name : σ → String
  stat : Registry → String → Int → σ → Outcome σ FileInfo
  openFile : Registry → String → Headers → σ → Outcome σ RemoteObject
  list : Registry → String → Int → σ → Outcome σ (List Node)
  dirExists : Registry → String → Int → σ → Outcome σ Bool

/-- Whether a directory exists, judged by listing its parent: the root always does,
any other directory when its parent lists it. -/
def listedDirExists {σ : Type} (list : Registry → String → Int → σ → Outcome σ (List Node))
    (reg : Registry) (dir : String) (now : Int) (s : σ) : Except Fault (Except ProxyError Bool × σ) := do
  let dir := cleanDir dir
  if dir.isEmpty then return (.ok true, s)
  match ← list reg (parentDir dir) now s with
  | (.ok nodes, s) => return (.ok (nodes.any fun n => match n with
      | .dir p _ => p == dir
      | .file _ => false), s)
  | (.error e, s) => return (.error e, s)

/-- What every writing operation answers. -/
def refuseWrite : ProxyError := .readOnly

end ChunkProxy.Remote
