import ChunkProxy.Remote.Link
/-!
# Sessions of the registered-URL file system

A session runs operations against the file system of registered URLs, sharing its
registry: registry operations, the path of an identifier, stats, listings,
directory checks, opens whose bodies are read to their end, the registry's size,
and the writing operations, which the read-only tree refuses.
-/

namespace ChunkProxy.Remote

set_option autoImplicit false

open Fs Http

/-- An operation of a session. -/
inductive LinkStep where
  | registry (s : Registry.Step)
  | pathOf (remote : String)
  | stat (path : String)
  | list (dir : String)
  | dirExists (dir : String)
  | openFile (path : String) (headers : Headers)
  | registrySize
  /-- A writing operation, refused. -/
  | write
  deriving Repr

/-- What an operation answers. -/
inductive LinkAnswer where
  | registry (a : Registry.Answer)
  | path (p : String)
  | info (f : FileInfo)
  | nodes (ns : List Node)
  | exists_ (b : Bool)
  | opened (o : RemoteObject)
  | registrySize (n : Nat)
  | failed (e : ProxyError)

/-- Applies one operation at time `now`. -/
def LinkStep.apply (now : Nat) (st : Registry × LinkFs) : LinkStep → Except Fault (LinkAnswer × (Registry × LinkFs))
  | .registry s =>
    let (a, reg) := s.apply now st.1
    pure (.registry a, (reg, st.2))
  | .pathOf remote => do pure (.path (← st.2.pathOf remote), st)
  | .stat path => do
    match ← LinkFs.stat st.1 path now st.2 with
    | (.ok f, fs) => pure (.info f, (st.1, fs))
    | (.error e, fs) => pure (.failed e, (st.1, fs))
  | .list dir => do
    match ← LinkFs.list st.1 dir now st.2 with
    | (.ok ns, fs) => pure (.nodes ns, (st.1, fs))
    | (.error e, fs) => pure (.failed e, (st.1, fs))
  | .dirExists dir => do pure (.exists_ (← LinkFs.dirExists st.1 dir st.2), st)
  | .openFile path headers => do
    match ← LinkFs.openFile st.1 path headers st.2 with
    | (.ok o, fs) => pure (.opened o, (st.1, fs))
    | (.error e, fs) => pure (.failed e, (st.1, fs))
  | .registrySize => pure (.registrySize st.1.size, st)
  | .write => pure (.failed refuseWrite, st)

/-- Runs a session over a file system of registered URLs at time `now`. -/
def runLinkSession (fs : LinkFs) (now : Nat) (steps : List LinkStep) : Except Fault (List LinkAnswer) := do
  let (answers, _) ← steps.foldlM (fun (acc : List LinkAnswer × (Registry × LinkFs)) s => do
    let (a, st) ← s.apply now acc.2
    pure (acc.1 ++ [a], st)) ([], ({}, fs))
  pure answers

end ChunkProxy.Remote
