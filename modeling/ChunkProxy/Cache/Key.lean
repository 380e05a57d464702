import ChunkProxy.Range.Basic
/-!
# Where a chunk is kept

A chunk of the file at a virtual path is named by the path without leading or
trailing slashes and the chunk's range, `path/start-end`.  On disk it is the
file `start-end` below the plain segments of the path: empty, `.` and `..`
segments are dropped, so every chunk file lies below the cache directory
whatever the path says.  The chunks of one version of a file live below the
file's path followed by its size.
-/

namespace ChunkProxy.Cache

set_option autoImplicit false

/-- A path without slashes at either end. -/
def trimSlashes (s : String) : String :=
  String.ofList ((s.toList.dropWhile (· == '/')).reverse.dropWhile (· == '/')).reverse

/-- The name of a chunk's range: `start-end`. -/
def rangeName (r : ByteRange) : String := showNat r.first ++ "-" ++ showNat r.last

/-- The key of a chunk in memory. -/
def chunkKey (remote : String) (r : ByteRange) : String :=
  trimSlashes remote ++ "/" ++ rangeName r

/-- The segments of a path that name a directory below it. -/
def plainSegments (remote : String) : List String :=
  (remote.splitOn "/").filter fun s => !s.isEmpty && s != "." && s != ".."

/-- The file of a chunk, relative to the cache directory. -/
def chunkFile (remote : String) (r : ByteRange) : List String :=
  plainSegments remote ++ [rangeName r]

/-- Where the chunks of a file read at a size are filed: the path, without trailing
slashes, then the size.  A file whose size changes never meets the chunks of its
previous version. -/
def versionPath (remote : String) (size : Nat) : String :=
  String.ofList (remote.toList.reverse.dropWhile (· == '/')).reverse ++ "/" ++ showNat size

end ChunkProxy.Cache
