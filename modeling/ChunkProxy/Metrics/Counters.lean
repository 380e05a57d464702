import ChunkProxy.Number.Binary64
/-!
# What the proxy counts

Requests served by status, the time each took to produce its headers (a
histogram in seconds), the number of registered identifiers, stat outcomes,
chunk cache hits and misses, and the bytes received from upstream.

Counters hold 64-bit words and wrap; the number of registered identifiers is a
signed 64-bit word, so a count from 2^63 on reads as negative; a status is a
16-bit word; durations are whole microseconds,
converted to seconds as binary64 numbers the way a clock's reading is, and the
histogram's sum accumulates them with rounding.
-/

namespace ChunkProxy

set_option autoImplicit false

/-- How a stat issued by the serving layer ended. -/
inductive StatResult where
  | found
  | notRegistered
  | resolveFailed
  | notAFile
  deriving DecidableEq, Repr

/-- The label of a stat outcome. -/
def StatResult.label : StatResult → String
  | .found => "found"
  | .notRegistered => "not_registered"
  | .resolveFailed => "resolve_failed"
  | .notAFile => "not_a_file"

/-- The upper bounds of the duration buckets, in seconds. -/
def durationBounds : List Binary64 :=
  [(1, 1000), (5, 1000), (1, 100), (25, 1000), (5, 100), (1, 10), (25, 100), (5, 10), (1, 1),
    (25, 10), (5, 1), (10, 1)].map fun (n, d) => Binary64.ofFrac n d

/-- Observations in buckets: how many fell in each bucket (not cumulative), their
sum and their number. -/
structure Histogram where
  counts : List Nat := durationBounds.map fun _ => 0
  sum : Binary64 := Binary64.zero
  count : Nat := 0
  deriving DecidableEq, Repr

namespace Histogram

/-- Records one observation in the first bucket whose bound it does not exceed. -/
def observe (h : Histogram) (v : Binary64) : Histogram :=
  let slot := durationBounds.findIdx? fun b => v.le b
  { counts := h.counts.mapIdx fun i n => if slot == some i then n + 1 else n
    sum := h.sum.add v
    count := h.count + 1 }

/-- The number of observations at or below each bound, in order. -/
def cumulative (h : Histogram) : List Nat :=
  (h.counts.foldl (fun (acc : List Nat × Nat) n => (acc.1 ++ [acc.2 + n], acc.2 + n)) ([], 0)).1

end Histogram

/-- Seconds of a duration given in microseconds, as a binary64 number: whole seconds
plus the nanoseconds divided by a billion. -/
def secondsOfMicros (us : Nat) : Binary64 :=
  (Binary64.ofNat (us / 1000000)).add
    ((Binary64.ofNat (us % 1000000 * 1000)).div (Binary64.ofNat 1000000000))

/-- Adds one to the count of a label. -/
def bump (xs : List (String × Nat)) (label : String) (by_ : Nat := 1) : List (String × Nat) :=
  match xs.lookup label with
  | some n => xs.map fun e => if e.1 == label then (label, (n + by_) % wordBound) else e
  | none => xs ++ [(label, by_ % wordBound)]

/-- A count as a signed 64-bit word: the count modulo 2^64, read in two's complement. -/
def signedWord (n : Nat) : Int :=
  let w := n % wordBound
  if w < wordBound / 2 then (w : Int) else (w : Int) - (wordBound : Int)

/-- Everything the proxy counts. -/
structure Metrics where
  requests : List (String × Nat) := []
  durations : Histogram := {}
  registryEntries : Int := 0
  stats : List (String × Nat) := []
  chunks : List (String × Nat) := []
  upstreamBytes : Nat := 0
  deriving DecidableEq, Repr

namespace Metrics

/-- The largest status plus one: statuses are 16-bit words. -/
def statusBound : Nat := 65536

/-- Records a served request and the microseconds it took. -/
def recordRequest (m : Metrics) (status : Nat) (micros : Nat) : Metrics :=
  { m with requests := bump m.requests (showNat (status % statusBound)),
           durations := m.durations.observe (secondsOfMicros micros) }

/-- Sets the number of registered identifiers. -/
def setRegistryEntries (m : Metrics) (n : Nat) : Metrics := { m with registryEntries := signedWord n }

/-- Records a stat outcome. -/
def recordStat (m : Metrics) (r : StatResult) : Metrics := { m with stats := bump m.stats r.label }

/-- Records a chunk found in the cache. -/
def chunkHit (m : Metrics) : Metrics := { m with chunks := bump m.chunks "hit" }

/-- Records a chunk that had to be fetched. -/
def chunkMiss (m : Metrics) : Metrics := { m with chunks := bump m.chunks "miss" }

/-- Records bytes received from upstream. -/
def recordUpstream (m : Metrics) (bytes : Nat) : Metrics :=
  { m with upstreamBytes := (m.upstreamBytes + bytes) % wordBound }

end Metrics

end ChunkProxy
