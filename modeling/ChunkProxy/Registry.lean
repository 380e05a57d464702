import ChunkProxy.Http.Header
import ChunkProxy.Fault
/-!
# The registry of remote identifiers

Every virtual file is an identifier registered here with the URL it stands
for and the request headers to replay upstream.  Registering is
insert-if-absent and safe to repeat; registering with a size replaces the
entry, stamps it modified at the time of registration, and is the only way to
correct one.  Entries are never removed.

Of a client's headers, those that describe its exchange with the proxy rather
than the object (hop-by-hop headers, length, encoding, ranges, conditionals
and the size hint) are not replayed.  The copy is made in a header map sized
for every value the client sent, and a map indexes at most `2^15` slots, so a
client with too many values faults (`replayHeaders`).  Requests that reach the
handler through the server carry at most a hundred header lines, far fewer,
and the handler registers the filtered headers themselves.

`register_existing` states that registering a known identifier changes
nothing.
-/

namespace ChunkProxy

set_option autoImplicit false

open Http

/-- What an identifier stands for: a URL, headers to replay, and the size and
modification time when they were given at registration. -/
structure RegistryEntry where
  url : String
  headers : Headers := {}
  known : Option (Nat × Int) := none
  deriving DecidableEq, Repr

/-- The identifiers and their entries, in order of first registration. -/
structure Registry where
  entries : List (String × RegistryEntry) := []
  deriving DecidableEq, Repr

namespace Registry

/-- The entry of an identifier. -/
def lookup (r : Registry) (remote : String) : Option RegistryEntry := r.entries.lookup remote

/-- The URL of an identifier. -/
def load (r : Registry) (remote : String) : Option String := (r.lookup remote).map (·.url)

/-- Registers an identifier unless it is known; whether this created the entry. -/
def register (r : Registry) (remote url : String) (headers : Headers) : Bool × Registry :=
  match r.lookup remote with
  | some _ => (false, r)
  | none => (true, { entries := r.entries ++ [(remote, { url, headers })] })

/-- Registers an identifier with a size, modified at `now`, replacing any entry;
whether none was there. -/
def registerWithSize (r : Registry) (remote url : String) (headers : Headers) (size : Nat)
    (now : Int) : Bool × Registry :=
  let entry : RegistryEntry := { url, headers, known := some (size, now) }
  match r.lookup remote with
  | some _ => (false, { entries := r.entries.map fun e => if e.1 == remote then (remote, entry) else e })
  | none => (true, { entries := r.entries ++ [(remote, entry)] })

/-- The registered identifiers, sorted. -/
def identifiers (r : Registry) : List String := (r.entries.map (·.1)).mergeSort fun a b => decide (a ≤ b)

/-- The number of identifiers. -/
def size (r : Registry) : Nat := r.entries.length

/-- Registering a known identifier changes nothing. -/
theorem register_existing (r : Registry) (remote url : String) (headers : Headers)
    (e : RegistryEntry) (h : r.lookup remote = some e) :
    r.register remote url headers = (false, r) := by
  simp [register, h]

/-- One operation on the registry. -/
inductive Step where
  | register (remote url : String) (headers : Headers)
  | registerWithSize (remote url : String) (headers : Headers) (size : Nat)
  | lookup (remote : String)
  | load (remote : String)
  | identifiers
  | size
  deriving Repr

/-- What an operation on the registry answers. -/
inductive Answer where
  | created (fresh : Bool)
  | entry (e : Option RegistryEntry)
  | url (u : Option String)
  | identifiers (ids : List String)
  | size (n : Nat)
  deriving Repr

/-- Applies one operation at time `now`. -/
def Step.apply (now : Int) (r : Registry) : Step → Answer × Registry
  | .register remote url h => let (b, r) := r.register remote url h; (.created b, r)
  | .registerWithSize remote url h n => let (b, r) := r.registerWithSize remote url h n now; (.created b, r)
  | .lookup remote => (.entry (r.lookup remote), r)
  | .load remote => (.url (r.load remote), r)
  | .identifiers => (.identifiers r.identifiers, r)
  | .size => (.size r.size, r)

end Registry

/-- Headers that describe the client's exchange with the proxy. -/
def nonReplayable : List String :=
  ["host", "connection", "proxy-authenticate", "proxy-authorization", "te", "trailer",
    "transfer-encoding", "upgrade", "content-length", "accept-encoding", "range", "if-range",
    "if-match", "if-none-match", "if-modified-since", "if-unmodified-since", "keep-alive",
    "x-file-size"]

/-- The client's headers that may be replayed upstream. -/
def replayableHeaders (h : Headers) : Headers :=
  { entries := h.entries.filter fun e => !nonReplayable.contains (Headers.normName e.1) }

/-- The most index slots a header map may have. -/
def headerSlots : Nat := 32768

/-- Whether a header map can be made with room for `n` values: it asks for a third more index
slots than values, rounded up to a power of two, and may have at most `headerSlots`. -/
def roomFor (n : Nat) : Bool := n + n / 3 ≤ headerSlots

/-- Making a header map with room for more values than a map may index. -/
def Fault.headerCapacity : Fault := ⟨"size overflows MAX_SIZE: MaxSizeReached"⟩

/-- The client's headers that may be replayed, copied into a map made with room for every value
the client sent: more values than a map can be made for fault before any is copied. -/
def replayHeaders (h : Headers) : Except Fault Headers :=
  if roomFor h.entries.length then .ok (replayableHeaders h) else .error Fault.headerCapacity

end ChunkProxy
