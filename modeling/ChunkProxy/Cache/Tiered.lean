import ChunkProxy.Cache.Key
import ChunkProxy.Cache.Disk
import ChunkProxy.Cache.Memory
import ChunkProxy.Fs.Path
import ChunkProxy.Error
import ChunkProxy.Fault
/-!
# The two-tier chunk cache

A chunk is looked up in memory first, then on disk; a chunk found on disk is
brought back into memory with the expiry its file records.  Storing a chunk
keeps it in memory and writes it to disk behind the caller.

A chunk file holds its expiry, eight bytes little-endian in whole seconds since
the epoch (rounded down, and zero for a time before the epoch), then the chunk's
bytes.  It is written aside under the name `start-end.partial` and then renamed
into place, so a reader never sees half a chunk.  A file whose length does not
match its range, or whose expiry has passed, is deleted when read.

The writer keeps books of the files it knows (`Books`): the size recorded for
each path, a queue of the paths oldest first by their last write, and the running
total of the sizes.  It deletes files from the front of the queue while the total
exceeds the disk bound.

Opening a cache on a directory adopts the chunk files already there, oldest
first by modification stamp, and deletes the leftovers of interrupted writes.
After `shutdown` the writer is gone and a store fails, though the chunk is
still kept in memory.

Times are readings of the system clock (`Time`); adding a time to live past the
clock's range is a fault, as is reading an expiry past it.
-/

namespace ChunkProxy.Cache

set_option autoImplicit false

/-- Eight bytes little-endian. -/
def le8 (n : Nat) : List UInt8 := (List.range 8).map fun i => (n >>> (8 * i) % 256).toUInt8

/-- The number eight little-endian bytes hold. -/
def readLe8 (bs : List UInt8) : Nat := (bs.take 8).foldr (fun b acc => b.toNat + 256 * acc) 0

/-- The length of the expiry at the start of a chunk file. -/
def expiryLength : Nat := 8

/-- How often each outcome happened. -/
structure Counters where
  l1Hits : Nat := 0
  l2Hits : Nat := 0
  misses : Nat := 0
  diskWrites : Nat := 0
  diskErrors : Nat := 0
  diskEvictions : Nat := 0
  deriving DecidableEq, Repr

/-- A snapshot of the cache: entries and bytes in memory, and the counters. -/
structure Stats where
  entries : Nat
  bytes : Nat
  counters : Counters
  deriving DecidableEq, Repr

/-- The writer's books of the files it knows: the size recorded for each path, the paths in
the order of their last write, oldest first, and the running total of the sizes. -/
structure Books where
  sizes : List (List String × Nat) := []
  order : List (List String) := []
  total : Nat := 0
  deriving Repr

namespace Books

/-- Records a file as the newest.  Its size replaces the one recorded before, if any, which
leaves the total (never going below zero) and takes the path out of the queue; the path then
joins the back of the queue and its size the total. -/
def track (b : Books) (p : List String) (size : Nat) : Books :=
  let known : Books :=
    match b.sizes.lookup p with
    | some old => { b with order := b.order.filter (· != p), total := b.total - old }
    | none => b
  { sizes := (p, size) :: b.sizes.filter (·.1 != p), order := known.order ++ [p], total := known.total + size }

/-- Takes paths off the front of the queue `order` while the total exceeds the bound: each
one's size leaves the map and the total (a path with no size counts as zero), and its file
is deleted.  Counts the files deleted. -/
def evictFrom (limit : Nat) : List (List String) → List (List String × Nat) → Nat → Disk → Nat →
    Books × Disk × Nat
  | [], sizes, total, d, n => (⟨sizes, [], total⟩, d, n)
  | oldest :: rest, sizes, total, d, n =>
    if total ≤ limit then (⟨sizes, oldest :: rest, total⟩, d, n)
    else
      let size := (sizes.lookup oldest).getD 0
      let sizes := sizes.filter (·.1 != oldest)
      match d.removeFile oldest with
      | .ok d => evictFrom limit rest sizes (total - size) d (n + 1)
      | .error _ => evictFrom limit rest sizes (total - size) d n

/-- Applies a bound to the books. -/
def evict (b : Books) (limit : Nat) (d : Disk) : Books × Disk × Nat :=
  evictFrom limit b.order b.sizes b.total d 0

end Books

/-- The disk tier: its directory, its bound, the writer's books, and whether the writer
still runs. -/
structure DiskTier where
  base : List String
  limit : Option Nat
  books : Books := {}
  running : Bool := true
  deriving Repr

namespace DiskTier

/-- Records a file as the newest. -/
def track (t : DiskTier) (p : List String) (size : Nat) : DiskTier :=
  { t with books := t.books.track p size }

/-- Applies the bound, if any; counts the files deleted. -/
def evict (t : DiskTier) (d : Disk) : DiskTier × Disk × Nat :=
  match t.limit with
  | some limit =>
    let (books, d, n) := t.books.evict limit d
    ({ t with books }, d, n)
  | none => (t, d, 0)

end DiskTier

/-- Writes a chunk file aside and renames it into place; whether it succeeded. -/
def writeChunk (d : Disk) (path : List String) (data : List UInt8) (expires : Time) : Disk × Bool :=
  let parent := path.dropLast
  match d.createDirAll parent with
  | .error _ => (d, false)
  | .ok d =>
    let temp := parent ++ [path.getLastD "" ++ ".partial"]
    match d.writeFile temp (le8 (epochSecs expires) ++ data) with
    | .error _ => (d, false)
    | .ok d =>
      match d.rename temp path with
      | .error _ => (d, false)
      | .ok d => (d, true)

/-- The two-tier cache: memory, the time to live, the disk tier when there is one,
the disk, and the counters. -/
structure Tiered where
  memory : Memory
  ttl : Nat
  tier : Option DiskTier := none
  disk : Disk := {}
  counters : Counters := {}
  deriving Repr

namespace Tiered

/-- A cache that keeps chunks in memory only. -/
def memoryOnly (ttl limit : Nat) : Tiered := { memory := { limit }, ttl }

/-- Whether a file name marks an interrupted write. -/
def isLeftover (name : String) : Bool := Fs.extension name == some "partial"

/-- Opens a cache on a directory of a disk (`baseText` names it in messages), adopting
the chunk files there. -/
def openOn (disk : Disk) (base : List String) (baseText : String) (ttl limit : Nat)
    (bound : Option Nat) : Except ProxyError Tiered := do
  let disk ←
    match disk.createDirAll base with
    | .ok d => pure d
    | .error e => throw (.cache ("Failed to create cache directory " ++ baseText ++ ": " ++ e.message))
  let found := disk.filesBelow base
  let leftovers := found.filter fun f => isLeftover (f.1.getLastD "")
  let kept := (found.filter fun f => !isLeftover (f.1.getLastD "")).mergeSort
    fun a b => a.2.2 ≤ b.2.2
  let disk := leftovers.foldl (fun d f => (d.removeFile (base ++ f.1)).toOption.getD d) disk
  let books := kept.foldl (fun b f => b.track (base ++ f.1) f.2.1) {}
  let (tier, disk, n) := ({ base, limit := bound, books } : DiskTier).evict disk
  pure { memory := { limit }, ttl, tier := some tier, disk, counters := { diskEvictions := n } }

/-- The writer takes a chunk: writes it, records it and applies the bound. -/
def writeBehind (c : Tiered) (t : DiskTier) (path : List String) (data : List UInt8)
    (expires : Time) : Tiered :=
  let (disk, ok) := writeChunk c.disk path data expires
  if ok then
    let (t, disk, n) := (t.track path (data.length + expiryLength)).evict disk
    { c with disk, tier := some t,
             counters := { c.counters with diskWrites := c.counters.diskWrites + 1,
                                           diskEvictions := c.counters.diskEvictions + n } }
  else { c with disk, counters := { c.counters with diskErrors := c.counters.diskErrors + 1 } }

/-- Stores a chunk at time `now`: in memory, and on disk behind the caller. -/
def store (c : Tiered) (remote : String) (r : ByteRange) (data : List UInt8) (now : Time) :
    Except Fault (Except ProxyError Unit × Tiered) := do
  let expires ← addSecs now c.ttl
  let c := { c with memory := c.memory.store (chunkKey remote r) data expires }
  match c.tier with
  | none => pure (.ok (), c)
  | some t =>
    if t.running then pure (.ok (), c.writeBehind t (t.base ++ chunkFile remote r) data expires)
    else pure (.error (.cache "disk writer has stopped"), c)

/-- Reads a chunk file: its bytes and expiry when it is whole and live; a file of the
wrong length or past its expiry is deleted. -/
def readChunk (c : Tiered) (path : List String) (r : ByteRange) (now : Time) :
    Except Fault (Option (List UInt8 × Time) × Tiered) := do
  match c.disk.readFile path with
  | .error _ => pure (none, c)
  | .ok bytes =>
    let size ← r.size
    if size + expiryLength ≥ wordBound then throw Fault.addOverflow
    let discard := { c with disk := (c.disk.removeFile path).toOption.getD c.disk }
    if bytes.length != size + expiryLength then pure (none, discard)
    else
      let secs := readLe8 bytes
      if secs > timeLimit then throw timeOverflow
      if ofEpochSecs secs ≤ now then pure (none, discard)
      else pure (some (bytes.drop expiryLength, ofEpochSecs secs), c)

/-- Looks a chunk up in memory at time `now`. -/
def lookupMemory (c : Tiered) (remote : String) (r : ByteRange) (now : Time) :
    Option (List UInt8) × Tiered :=
  let (hit, memory) := c.memory.lookup (chunkKey remote r) now
  let c := { c with memory }
  match hit with
  | some data => (some data, { c with counters := { c.counters with l1Hits := c.counters.l1Hits + 1 } })
  | none => (none, c)

/-- Looks a chunk up on disk at time `now`, after memory missed: a live file is brought
back into memory. -/
def lookupDisk (c : Tiered) (remote : String) (r : ByteRange) (now : Time) :
    Except Fault (Option (List UInt8) × Tiered) := do
  let (found, c) ←
    match c.tier with
    | some t => c.readChunk (t.base ++ chunkFile remote r) r now
    | none => pure (none, c)
  match found with
  | some (data, expires) =>
    pure (some data, { c with memory := c.memory.store (chunkKey remote r) data expires,
                              counters := { c.counters with l2Hits := c.counters.l2Hits + 1 } })
  | none => pure (none, { c with counters := { c.counters with misses := c.counters.misses + 1 } })

/-- Looks a chunk up at time `now`: memory, then disk. -/
def lookup (c : Tiered) (remote : String) (r : ByteRange) (now : Time) :
    Except Fault (Option (List UInt8) × Tiered) :=
  match c.lookupMemory remote r now with
  | (some data, c) => pure (some data, c)
  | (none, c) => c.lookupDisk remote r now

/-- The snapshot of the cache. -/
def stats (c : Tiered) : Stats := ⟨c.memory.count, c.memory.size, c.counters⟩

/-- Stops the writer once every queued write is done. -/
def shutdown (c : Tiered) : Tiered := { c with tier := c.tier.map fun t => { t with running := false } }

/-- The files below the cache directory, as `path:length`, sorted. -/
def files (c : Tiered) : List String :=
  match c.tier with
  | some t => ((c.disk.filesBelow t.base).map fun f => "/".intercalate f.1 ++ ":" ++ showNat f.2.1).mergeSort
      fun a b => decide (a ≤ b)
  | none => []

end Tiered

end ChunkProxy.Cache
