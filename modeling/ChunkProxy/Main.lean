import ChunkProxy.Launch.Run
/-!
# The command line

`chunk-proxy [settings.yaml]` starts the proxy with the settings of the file it
names, or with the default settings.  The log filter is read from `RUST_LOG`; a setting that cannot be read at all
ends the program with status 101.
The start-up is logged line by line; a failed start ends with status 1.  A
started proxy serves until its standard input closes, which tells it to stop;
it then logs its shutdown and ends with status 0.
-/

open ChunkProxy Launch

/-- Reads a file's bytes: none when it cannot be read. -/
def readSettings (path : String) : IO (Option (List UInt8)) :=
  tryCatch (do let b ← IO.FS.readBinFile path; pure (some b.toList)) fun _ => pure none

/-- Writes log lines. -/
def writeLog (lines : List (Level × String)) : IO Unit := do
  for l in lines do
    IO.println (l.1.name ++ " " ++ l.2)

/-- Waits until standard input closes. -/
partial def awaitStop (stdin : IO.FS.Stream) : IO Unit := do
  let line ← stdin.getLine
  if line.isEmpty then pure () else awaitStop stdin

/-- Starts the proxy, serves until told to stop, and ends. -/
def main (args : List String) : IO UInt32 := do
  let some filter := LogFilter.fromSetting (← IO.getEnv "RUST_LOG")
    | IO.eprintln "the log filter setting cuts a character apart"
      pure (UInt32.ofNat faultStatus)
  let inv ← match args with
    | [] => pure Invocation.defaults
    | path :: _ => do pure (Invocation.file path (← readSettings path))
  match start {} inv with
  | (lines, .error e) =>
    writeLog (filter.keep (lines ++ [(.error, e)]))
    pure 1
  | (lines, .ok (_, endpointError)) =>
    writeLog (filter.keep (lines ++ (endpointError.map fun e => [(Level.error, e)]).getD []))
    awaitStop (← IO.getStdin)
    writeLog (filter.keep stopLines)
    pure 0
