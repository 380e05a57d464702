import ChunkProxy.Fault
import ChunkProxy.Text.Blank
import ChunkProxy.Text.Decimal
/-!
# HTTP dates

Times in HTTP headers are whole seconds in UTC, written in the IMF-fixdate form
`Sun, 06 Nov 1994 08:49:37 GMT`.  Reading also accepts the two obsolete forms:
RFC 850 (`Sunday, 06-Nov-94 08:49:37 GMT`, years below 70 in the 2000s) and
asctime (`Sun Nov  6 08:49:37 1994`).  Reading is exact: ASCII only, trimmed,
fixed positions and names with their case; and the date must exist, lie in the
years 1970 to 9999 and carry its true weekday.

Writing a time before 1970 or from the year 10000 on faults.
-/

namespace ChunkProxy.Http

set_option autoImplicit false

/-- A broken-down UTC time; weekdays count from Monday as 1 to Sunday as 7. -/
structure HttpDate where
  sec : Nat
  min : Nat
  hour : Nat
  day : Nat
  mon : Nat
  year : Nat
  wday : Nat
  deriving DecidableEq, Repr

/-- The first second of the year 10000. -/
def yearTenThousand : Nat := 253402300800

/-- Days from 1970-01-01 to a civil date (proleptic Gregorian). -/
def daysFromCivil (y m d : Nat) : Int :=
  let y : Int := if m ≤ 2 then (y : Int) - 1 else y
  let era := (if y ≥ 0 then y else y - 399) / 400
  let yoe := y - era * 400
  let mp : Int := if m > 2 then (m : Int) - 3 else (m : Int) + 9
  let doy := (153 * mp + 2) / 5 + (d : Int) - 1
  let doe := yoe * 365 + yoe / 4 - yoe / 100 + doy
  era * 146097 + doe - 719468

/-- The civil date of a day count from 1970-01-01 (days not negative). -/
def civilFromDays (days : Nat) : Nat × Nat × Nat :=
  let z := days + 719468
  let era := z / 146097
  let doe := z - era * 146097
  let yoe := (doe - doe / 1460 + doe / 36524 - doe / 146096) / 365
  let y := yoe + era * 400
  let doy := doe - (365 * yoe + yoe / 4 - yoe / 100)
  let mp := (5 * doy + 2) / 153
  let d := doy - (153 * mp + 2) / 5 + 1
  let m := if mp < 10 then mp + 3 else mp - 9
  ((if m ≤ 2 then y + 1 else y), m, d)

namespace HttpDate

/-- The broken-down form of a time since the epoch, below the year 10000. -/
def ofSecs (secs : Nat) : HttpDate :=
  let days := secs / 86400
  let rem := secs % 86400
  let (y, m, d) := civilFromDays days
  { sec := rem % 60, min := rem / 60 % 60, hour := rem / 3600, day := d, mon := m, year := y,
    wday := (days + 3) % 7 + 1 }

/-- The seconds since the epoch of a date from 1970 on. -/
def toSecs (t : HttpDate) : Int :=
  daysFromCivil t.year t.mon t.day * 86400 + t.hour * 3600 + t.min * 60 + t.sec

/-- The three-letter weekday names, Monday first. -/
def weekdayNames : List String := ["Mon", "Tue", "Wed", "Thu", "Fri", "Sat", "Sun"]

/-- The full weekday names, Monday first. -/
def weekdayLongNames : List String :=
  ["Monday", "Tuesday", "Wednesday", "Thursday", "Friday", "Saturday", "Sunday"]

/-- The three-letter month names. -/
def monthNames : List String :=
  ["Jan", "Feb", "Mar", "Apr", "May", "Jun", "Jul", "Aug", "Sep", "Oct", "Nov", "Dec"]

/-- A number in at least `width` digits. -/
def padded (width n : Nat) : String :=
  let s := showNat n
  String.ofList (List.replicate (width - s.length) '0') ++ s

/-- The IMF-fixdate text. -/
def format (t : HttpDate) : String :=
  weekdayNames.getD (t.wday - 1) "" ++ ", " ++ padded 2 t.day ++ " " ++
    monthNames.getD (t.mon - 1) "" ++ " " ++ padded 4 t.year ++ " " ++ padded 2 t.hour ++ ":" ++
    padded 2 t.min ++ ":" ++ padded 2 t.sec ++ " GMT"

/-- The text of a time given in seconds since the epoch; faults outside 1970 to 9999. -/
def formatSecs (secs : Int) : Except Fault String :=
  if secs < 0 then
    .error ⟨"all times should be after the epoch: SystemTimeError(" ++ showNat secs.natAbs ++ "s)"⟩
  else if secs.toNat ≥ yearTenThousand then .error ⟨"date must be before year 9999"⟩
  else .ok (format (ofSecs secs.toNat))

/-- Two digits at a position. -/
def digits2 (cs : List Char) (at_ : Nat) : Option Nat := do
  let a ← Decimal.digitValue? (← cs[at_]?)
  let b ← Decimal.digitValue? (← cs[at_ + 1]?)
  pure (10 * a + b)

/-- Four digits at a position. -/
def digits4 (cs : List Char) (at_ : Nat) : Option Nat := do
  let a ← digits2 cs at_
  let b ← digits2 cs (at_ + 2)
  pure (100 * a + b)

/-- The text between two positions. -/
def slice (cs : List Char) (a b : Nat) : String := String.ofList ((cs.drop a).take (b - a))

/-- The 1-based index of a name in a list. -/
def indexOf (names : List String) (s : String) : Option Nat :=
  (names.idxOf? s).map (· + 1)

/-- Reads `Sun, 06 Nov 1994 08:49:37 GMT`. -/
def readFixdate (cs : List Char) : Option HttpDate := do
  if cs.length ≠ 29 || slice cs 25 29 != " GMT" || cs[16]? != some ' ' || cs[19]? != some ':' ||
    cs[22]? != some ':' then none
  let sec ← digits2 cs 23
  let min ← digits2 cs 20
  let hour ← digits2 cs 17
  let day ← digits2 cs 5
  let mon ← indexOf (monthNames.map (" " ++ · ++ " ")) (slice cs 7 12)
  let year ← digits4 cs 12
  let wday ← indexOf (weekdayNames.map (· ++ ", ")) (slice cs 0 5)
  pure { sec, min, hour, day, mon, year, wday }

/-- Reads `Sunday, 06-Nov-94 08:49:37 GMT`. -/
def readRfc850 (cs : List Char) : Option HttpDate := do
  if cs.length < 23 then none
  let (wday, rest) ← (weekdayLongNames.zipIdx.findSome? fun (name, i) =>
    let prefix_ := (name ++ ", ").toList
    if cs.take prefix_.length == prefix_ then some (i + 1, cs.drop prefix_.length) else none)
  if rest.length ≠ 22 || rest[12]? != some ':' || rest[15]? != some ':' ||
    slice rest 18 22 != " GMT" then none
  let yy ← digits2 rest 7
  let year := if yy < 70 then yy + 2000 else yy + 1900
  let sec ← digits2 rest 16
  let min ← digits2 rest 13
  let hour ← digits2 rest 10
  let day ← digits2 rest 0
  let mon ← indexOf (monthNames.map ("-" ++ · ++ "-")) (slice rest 2 7)
  pure { sec, min, hour, day, mon, year, wday }

/-- Reads `Sun Nov  6 08:49:37 1994`. -/
def readAsctime (cs : List Char) : Option HttpDate := do
  if cs.length ≠ 24 || cs[10]? != some ' ' || cs[13]? != some ':' || cs[16]? != some ':' ||
    cs[19]? != some ' ' then none
  let sec ← digits2 cs 17
  let min ← digits2 cs 14
  let hour ← digits2 cs 11
  let day ←
    if cs[8]? == some ' ' then Decimal.digitValue? (← cs[9]?) else digits2 cs 8
  let mon ← indexOf (monthNames.map (· ++ " ")) (slice cs 4 8)
  let year ← digits4 cs 20
  let wday ← indexOf (weekdayNames.map (· ++ " ")) (slice cs 0 4)
  pure { sec, min, hour, day, mon, year, wday }

/-- Whether a read date exists, lies in 1970 to 9999 and has its true weekday. -/
def isValid (t : HttpDate) : Bool :=
  t.sec < 60 && t.min < 60 && t.hour < 24 && 0 < t.day && t.day < 32 && 0 < t.mon &&
    t.mon ≤ 12 && 1970 ≤ t.year && t.year ≤ 9999 && decide (0 ≤ t.toSecs) &&
    ofSecs t.toSecs.toNat == t

/-- Reads an HTTP date in any of the three forms. -/
def parse (s : String) : Option HttpDate :=
  if !s.toList.all (·.toNat < 0x80) then none
  else
    let cs := (Text.trimBlanks s).toList
    match (readFixdate cs).orElse fun _ => (readRfc850 cs).orElse fun _ => readAsctime cs with
    | some t => if isValid t then some t else none
    | none => none

/-- Reads an HTTP date as seconds since the epoch. -/
def parseSecs (s : String) : Option Nat := (parse s).map (·.toSecs.toNat)

end HttpDate

end ChunkProxy.Http
