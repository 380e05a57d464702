/-!
# Faults

Some operations stop instead of answering: arithmetic that would leave the
range of an unsigned 64-bit word, and formatting a time outside the range
that HTTP dates can express.  Such a stop is a `Fault` with its message; it is
not an error value of the proxy, and an operation that faults answers nothing
else.
-/

namespace ChunkProxy

set_option autoImplicit false

/-- An operation stopped with a message. -/
structure Fault where
  message : String
  deriving DecidableEq, Repr

namespace Fault

/-- An addition left the range of its word. -/
def addOverflow : Fault := ⟨"attempt to add with overflow"⟩

/-- A multiplication left the range of its word. -/
def mulOverflow : Fault := ⟨"attempt to multiply with overflow"⟩

/-- A subtraction went below zero. -/
def subOverflow : Fault := ⟨"attempt to subtract with overflow"⟩

end Fault

end ChunkProxy
