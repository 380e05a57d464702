import ChunkProxy.Range.Basic
/-!
# Chunk plans

The cache stores a file in fixed chunks aligned to the file: chunk `k` covers
bytes `k·c` to `(k+1)·c - 1`, cut at the last byte, for a chunk size `c` of at
least one.  A read of a range is planned as the chunks that meet it, in file
order; each chunk carries the part of it that the read wants.  Two reads of the
same region therefore share cache entries wherever they begin.

A plan is walked from the front (`next`) or from the back (`nextBack`); the
chunks not yet taken form the interval `pending`.
-/

namespace ChunkProxy

set_option autoImplicit false

/-- One chunk of a plan: its index, its bytes and the part of them wanted. -/
structure ChunkSpec where
  index : Nat
  range : ByteRange
  wanted : ByteRange
  deriving DecidableEq, Repr

namespace ChunkSpec

/-- The wanted part as offsets into the chunk: from, and one past the end. -/
def offsets (s : ChunkSpec) : Nat × Nat :=
  (s.wanted.first - s.range.first, s.wanted.last - s.range.first + 1)

/-- Whether the whole chunk is wanted. -/
def isWhole (s : ChunkSpec) : Bool := s.range == s.wanted

end ChunkSpec

/-- A plan: the chunk size, the last byte of the file, the wanted bytes and the
indices of the chunks still to be taken. -/
structure ChunkPlan where
  chunkSize : Nat
  lastByte : Nat
  wanted : ByteRange
  pending : Option (Nat × Nat)
  deriving DecidableEq, Repr

namespace ChunkPlan

/-- The chunk size in use: at least one. -/
def effectiveSize (c : Nat) : Nat := max c 1

/-- The number of chunks of a file. -/
def totalChunks (chunkSize fileSize : Nat) : Nat :=
  (fileSize + effectiveSize chunkSize - 1) / effectiveSize chunkSize

/-- Plans a read of `requested` (all of the file when absent). -/
def make (chunkSize fileSize : Nat) (requested : Option ByteRange) :
    Except ProxyError ChunkPlan :=
  let c := effectiveSize chunkSize
  if fileSize == 0 then .ok ⟨c, 0, ⟨0, 0⟩, none⟩
  else
    let bounds : Except ProxyError (Nat × Nat) :=
      match requested with
      | some r =>
        if r.first ≥ fileSize then
          .error (.invalidRange ("Range start " ++ showNat r.first ++ " is beyond file size " ++
            showNat fileSize))
        else .ok (r.first, min r.last (fileSize - 1))
      | none => .ok (0, fileSize - 1)
    bounds.map fun (s, e) => ⟨c, fileSize - 1, ⟨s, e⟩, some (s / c, e / c)⟩

/-- How many chunks are still to be taken. -/
def remaining (p : ChunkPlan) : Nat :=
  match p.pending with
  | some (lo, hi) => if lo ≤ hi then hi - lo + 1 else 0
  | none => 0

/-- The size hint of the iterator for a 64-bit `usize`: the count as both bounds while it fits
a word, else the largest word and no upper bound. -/
def sizeHint (p : ChunkPlan) : Nat × Option Nat :=
  if p.remaining < wordBound then (p.remaining, some p.remaining) else (wordMax, none)

/-- The chunk of an index. -/
def spec (p : ChunkPlan) (index : Nat) : ChunkSpec :=
  let start := index * p.chunkSize
  let stop := min (min (start + (p.chunkSize - 1)) wordMax) p.lastByte
  { index, range := ⟨start, stop⟩, wanted := ⟨max p.wanted.first start, min p.wanted.last stop⟩ }

/-- Takes the first pending chunk. -/
def next (p : ChunkPlan) : Option ChunkSpec × ChunkPlan :=
  match p.pending with
  | some (lo, hi) =>
    if lo < hi then (some (p.spec lo), { p with pending := some (lo + 1, hi) })
    else if lo == hi then (some (p.spec lo), { p with pending := none })
    else (none, p)
  | none => (none, p)

/-- Takes the last pending chunk. -/
def nextBack (p : ChunkPlan) : Option ChunkSpec × ChunkPlan :=
  match p.pending with
  | some (lo, hi) =>
    if lo < hi then (some (p.spec hi), { p with pending := some (lo, hi - 1) })
    else if lo == hi then (some (p.spec lo), { p with pending := none })
    else (none, p)
  | none => (none, p)

/-- All pending chunks, in file order. -/
def toList (p : ChunkPlan) : List ChunkSpec :=
  match p.pending with
  | some (lo, hi) => (List.range (hi + 1 - lo)).map fun k => p.spec (lo + k)
  | none => []

/-- The list of chunks has as many entries as remain. -/
theorem length_toList (p : ChunkPlan) : p.toList.length = p.remaining := by
  unfold toList remaining
  split
  · simp only [List.length_map, List.length_range]; split <;> omega
  · rfl

end ChunkPlan

end ChunkProxy
