import ChunkProxy.Error
import ChunkProxy.Fault
/-!
# Byte ranges

A byte range names the bytes from `first` to `last`, both included.  A range
made by `ByteRange.make` has `first ≤ last`; ranges inside the chunk planner
may be built directly.  Its size is `last - first + 1` in a 64-bit word, which
faults for the whole word range.  A range is written `bytes=first-last` in a
request and `bytes first-last/total` in a response.
-/

namespace ChunkProxy

set_option autoImplicit false

/-- The bytes from `first` to `last`, both included. -/
structure ByteRange where
  first : Nat
  last : Nat
  deriving DecidableEq, Repr

namespace ByteRange

/-- A range, refused when it starts after it ends. -/
def make (first last : Nat) : Except ProxyError ByteRange :=
  if first > last then
    .error (.invalidRange ("start (" ++ showNat first ++ ") must be <= end (" ++ showNat last ++ ")"))
  else .ok ⟨first, last⟩

/-- The number of bytes of a range, in a 64-bit word. -/
def size (r : ByteRange) : Except Fault Nat :=
  if r.last < r.first then .error Fault.subOverflow
  else if r.last - r.first + 1 ≥ wordBound then .error Fault.addOverflow
  else .ok (r.last - r.first + 1)

/-- Whether another range lies within this one. -/
def contains (r other : ByteRange) : Bool := other.first ≥ r.first && other.last ≤ r.last

/-- The request header value `bytes=first-last`. -/
def header (r : ByteRange) : String := "bytes=" ++ showNat r.first ++ "-" ++ showNat r.last

/-- The response header value `bytes first-last/total`. -/
def contentRange (r : ByteRange) (total : Nat) : String :=
  "bytes " ++ showNat r.first ++ "-" ++ showNat r.last ++ "/" ++ showNat total

/-- The number of bytes of a range, as a plain number. -/
def length (r : ByteRange) : Nat := r.last + 1 - r.first

/-- A range in order whose size fits a word has that size. -/
theorem size_of_le {r : ByteRange} (ordered : r.first ≤ r.last)
    (fits : r.last - r.first + 1 < wordBound) : r.size = .ok r.length := by
  simp only [size, length]
  rw [if_neg (Nat.not_lt.mpr ordered), if_neg (Nat.not_le.mpr fits)]
  congr 1
  omega

/-- A made range starts no later than it ends. -/
theorem make_le {first last : Nat} {r : ByteRange} (h : make first last = .ok r) :
    r.first ≤ r.last := by
  unfold make at h
  split at h
  · cases h
  · cases h; simp only; omega

end ByteRange

end ChunkProxy
