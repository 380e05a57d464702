/-!
# Tables of Unicode properties

A property of code points that changes value at few places is kept as its runs:
the code points where a new value starts, in increasing order, each with the
value that holds from there up to the next start.  A table is written as text,
one entry `START:VALUE;` per run with the start in hexadecimal, spread over as
many strings as reads well, and is read from that text once.

A lookup finds the last run that starts at or before the code point by halving
the range of runs that can hold it (`RunTable.search`), so it takes about log₂
of the number of runs steps.  A table of single code points, such as a table of
decompositions, is the same structure looked up exactly (`RunTable.find?`).
-/

namespace ChunkProxy.Unicode

set_option autoImplicit false

/-- The value of a hexadecimal digit of either case; zero for any other character. -/
def hexDigit (c : Char) : Nat :=
  if '0' ≤ c ∧ c ≤ '9' then c.toNat - '0'.toNat
  else if 'A' ≤ c ∧ c ≤ 'F' then c.toNat - 'A'.toNat + 10
  else if 'a' ≤ c ∧ c ≤ 'f' then c.toNat - 'a'.toNat + 10
  else 0

/-- The value of a hexadecimal numeral. -/
def hexValue (cs : List Char) : Nat := cs.foldl (fun n c => n * 16 + hexDigit c) 0

/-- The code points of a list of hexadecimal numerals separated by commas. -/
def hexList (s : String) : List Nat :=
  ((s.splitOn ",").filter (!·.isEmpty)).map fun h => hexValue h.toList

/-- A property of code points as its runs: `starts` in increasing order, the value
of each run at the same index of `values`, and `fallback` below the first run. -/
structure RunTable (α : Type) where
  starts : Array Nat
  values : Array α
  fallback : α

namespace RunTable

variable {α : Type}

/-- The index of the last start at or before `n` among those from `lo` up to
`hi`, given that the start at `lo` is at or before `n`. -/
def search (starts : Array Nat) (n lo hi : Nat) : Nat :=
  if lo + 1 < hi then
    let mid := (lo + hi) / 2
    if starts.getD mid 0 ≤ n then search starts n mid hi else search starts n lo mid
  else lo
termination_by hi - lo
decreasing_by all_goals omega

/-- The index of the run that holds `n`, if a run starts at or before it. -/
def runIndex? (t : RunTable α) (n : Nat) : Option Nat :=
  if t.starts.getD 0 (n + 1) ≤ n then some (search t.starts n 0 t.starts.size) else none

/-- The value of the property at code point `n`. -/
def get (t : RunTable α) (n : Nat) : α :=
  match t.runIndex? n with
  | some i => t.values.getD i t.fallback
  | none => t.fallback

/-- The value of the entry for exactly code point `n`, in a table of single code points. -/
def find? (t : RunTable α) (n : Nat) : Option α :=
  match t.runIndex? n with
  | some i => if t.starts.getD i 0 == n then t.values[i]? else none
  | none => none

/-- Reads a table from its text: `read` reads each value. -/
def ofText (read : String → α) (fallback : α) (text : List String) : RunTable α :=
  let entries := ((String.join text).splitOn ";").filterMap fun e =>
    match e.splitOn ":" with
    | [start, value] => some (hexValue start.toList, read value)
    | _ => none
  { starts := (entries.map (·.1)).toArray, values := (entries.map (·.2)).toArray, fallback }

end RunTable

end ChunkProxy.Unicode
