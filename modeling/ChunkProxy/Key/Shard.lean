import ChunkProxy.Fault
import ChunkProxy.Bytes.Utf8
import ChunkProxy.Text.Decimal
/-!
# Sharded paths

A key is placed under nested directories named by its leading pairs of
characters, so that no directory holds too many files: at depth 2 the key
`ab12cd34` lives at `ab/12/ab12cd34`.  The pairs are pairs of bytes: depth 0, a
key shorter than two bytes per level, or a pair that would cut a multi-byte
character leaves the key bare.  Doubling a depth beyond the word range faults.
-/

namespace ChunkProxy.Key

set_option autoImplicit false

/-- Whether a byte offset of a UTF-8 text falls between characters. -/
def isBoundary (bytes : List UInt8) (i : Nat) : Bool :=
  match bytes[i]? with
  | some b => !(0x80 ≤ b && b ≤ 0xBF)
  | none => i == bytes.length

/-- The directory names of the first `depth` byte pairs, when every pair cuts no character. -/
def shardPrefixes (bytes : List UInt8) (depth : Nat) : Option (List String) :=
  (List.range depth).mapM fun level =>
    if isBoundary bytes (2 * level) && isBoundary bytes (2 * level + 2) then
      Utf8.decode? ((bytes.drop (2 * level)).take 2)
    else none

/-- The sharded path of a key at a depth. -/
def shardedPath (key : String) (depth : Nat) : Except Fault String :=
  if 2 * depth ≥ wordBound then .error Fault.mulOverflow
  else
    let bytes := Utf8.encode key
    if depth == 0 || bytes.length < 2 * depth then .ok key
    else
      match shardPrefixes bytes depth with
      | some parts => .ok ("/".intercalate (parts ++ [key]))
      | none => .ok key

end ChunkProxy.Key
