import ChunkProxy.Text.Decimal
import ChunkProxy.Cache.Clock
/-!
# The memory tier

Chunks in memory are bounded by their total size.  Every lookup and every
store advances a clock; an entry remembers the tick of its last use.  Storing
a chunk replaces the entry of its key, then drops least recently used entries
until the new chunk fits; a chunk larger than the whole bound is not kept.
An entry is live while its expiry lies after the present, to the nanosecond;
a lookup that finds an expired entry drops it.

`Memory.Good` says the recorded size is the total size of the entries and no
key is held twice.
-/

namespace ChunkProxy.Cache

set_option autoImplicit false

/-- One chunk in memory: its key, bytes, expiry and the tick of its last use. -/
structure Slot where
  key : String
  data : List UInt8
  expires : Time
  lastUsed : Nat
  deriving DecidableEq, Repr

/-- The memory tier: its bound, entries, their total size and the clock. -/
structure Memory where
  limit : Nat
  slots : List Slot := []
  size : Nat := 0
  clock : Nat := 0
  deriving Repr

namespace Memory

/-- The total size of a list of entries. -/
def total (slots : List Slot) : Nat := (slots.map (·.data.length)).foldr (· + ·) 0

/-- The memory tier without the entry of a key. -/
def remove (m : Memory) (key : String) : Memory :=
  match m.slots.find? (·.key == key) with
  | some s => { m with slots := m.slots.filter (·.key != key), size := m.size - s.data.length }
  | none => m

/-- The least recently used entry. -/
def oldest? (slots : List Slot) : Option Slot :=
  slots.foldl (fun acc s =>
    match acc with
    | some a => if s.lastUsed < a.lastUsed then some s else some a
    | none => some s) none

/-- Drops least recently used entries until `extra` more bytes fit; one entry per unit of fuel. -/
def makeRoom (m : Memory) (extra : Nat) : Nat → Memory
  | 0 => m
  | fuel + 1 =>
    if m.size + extra ≤ m.limit then m
    else
      match oldest? m.slots with
      | some s => makeRoom (m.remove s.key) extra fuel
      | none => m

/-- Keeps a chunk until its expiry. -/
def store (m : Memory) (key : String) (data : List UInt8) (expires : Time) : Memory :=
  if data.length > m.limit then m
  else
    let m := (m.remove key).makeRoom data.length m.slots.length
    let clock := m.clock + 1
    { m with
      slots := m.slots ++ [⟨key, data, expires, clock⟩]
      size := m.size + data.length
      clock }

/-- Looks a chunk up at time `now`: the bytes when live, and the tier after the lookup. -/
def lookup (m : Memory) (key : String) (now : Time) : Option (List UInt8) × Memory :=
  let tick := m.clock + 1
  let m := { m with clock := tick }
  match m.slots.find? (·.key == key) with
  | some s =>
    if s.expires > now then
      (some s.data, { m with slots := m.slots.map fun t => if t.key == key then { t with lastUsed := tick } else t })
    else (none, m.remove key)
  | none => (none, m)

/-- The number of entries. -/
def count (m : Memory) : Nat := m.slots.length

/-- The size is the total of the entries and keys are distinct. -/
def Good (m : Memory) : Prop := m.size = total m.slots ∧ (m.slots.map (·.key)).Nodup

end Memory

end ChunkProxy.Cache
