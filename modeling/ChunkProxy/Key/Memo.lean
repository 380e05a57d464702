import ChunkProxy.Key.Normalize
/-!
# The key memo

Keys are computed once per distinct raw target URL and remembered for good.
The memo counts how many digests it has computed, which is also how many
distinct URLs it has seen.
-/

namespace ChunkProxy.Key

set_option autoImplicit false

/-- Remembered keys of raw target URLs, with the normalisation switches. -/
structure Memo where
  dropQuery : Bool
  dropOrigin : Bool
  entries : List (String × String) := []
  digests : Nat := 0

namespace Memo

/-- An empty memo. -/
def empty (dropQuery dropOrigin : Bool) : Memo := { dropQuery, dropOrigin }

/-- The key of a raw URL, computing and remembering it on first use. -/
def keyOf (m : Memo) (raw : String) : String × Memo :=
  match m.entries.lookup raw with
  | some k => (k, m)
  | none =>
    let k := compute raw m.dropQuery m.dropOrigin
    (k, { m with entries := (raw, k) :: m.entries, digests := m.digests + 1 })

/-- How many URLs are remembered. -/
def size (m : Memo) : Nat := m.entries.length

/-- A remembered URL gets its remembered key and leaves the memo unchanged. -/
theorem keyOf_of_lookup (m : Memo) (raw k : String) (h : m.entries.lookup raw = some k) :
    m.keyOf raw = (k, m) := by
  simp [keyOf, h]

end Memo

end ChunkProxy.Key
