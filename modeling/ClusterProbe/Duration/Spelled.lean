import ClusterProbe.Duration
import ClusterProbe.Text.Blank
import ClusterProbe.Text.Quoted

/-!
# Spelled durations

Durations as people write them: numbers with units, such as `1h 30m` or `2.5 sec`, which add up.
`Duration.parse` reads them and `Duration.spelled` writes them. Offsets in messages count bytes.
-/
namespace ClusterProbe

inductive TimeUnit where
  | nanosecond | microsecond | millisecond | second | minute | hour | day | week | month | year
  deriving DecidableEq, Repr

namespace TimeUnit

def all : List TimeUnit :=
  [nanosecond, microsecond, millisecond, second, minute, hour, day, week, month, year]

def names : TimeUnit → List String
  | nanosecond => ["nanos", "nsec", "ns"]
  | microsecond => ["usec", "us", "µs"]
  | millisecond => ["millis", "msec", "ms"]
  | second => ["seconds", "second", "secs", "sec", "s"]
  | minute => ["minutes", "minute", "min", "mins", "m"]
  | hour => ["hours", "hour", "hr", "hrs", "h"]
  | day => ["days", "day", "d"]
  | week => ["weeks", "week", "wk", "wks", "w"]
  | month => ["months", "month", "M"]
  | year => ["years", "year", "yr", "yrs", "y"]

def ofName? (s : String) : Option TimeUnit :=
  all.find? fun u => u.names.contains s

def nanos : TimeUnit → Nat
  | nanosecond => 1
  | microsecond => 1000
  | millisecond => 1000000
  | _ => 0

/-- Seconds in a unit of a second or more. A year has 365.25 days, a month 30.44. -/
def seconds : TimeUnit → Nat
  | second => 1
  | minute => 60
  | hour => 3600
  | day => 86400
  | week => 604800
  | month => 2630016
  | year => 31557600
  | _ => 0

/-- Fractions of hours and of longer units have to be whole seconds. -/
def isLong : TimeUnit → Bool
  | hour | day | week | month | year => true
  | _ => false

end TimeUnit

inductive DurationError where
  | empty
  | numberExpected (offset : Nat)
  | invalidCharacter (offset : Nat)
  | unitNeeded (n : Nat)
  | unknownUnit (name : String)
  | notRepresentable
  deriving DecidableEq, Repr

namespace DurationError

def message : DurationError → String
  | empty => "value was empty"
  | numberExpected offset => s!"expected number at {offset}"
  | invalidCharacter offset => s!"invalid character at {offset}"
  | unitNeeded n => s!"time unit needed, for example {n}sec or {n}ms"
  | unknownUnit name => s!"unknown time unit {Text.quoted name}, supported units: " ++
      "ns, us/µs, ms, sec, min, hours, days, weeks, months, years (and few variations)"
  | notRepresentable =>
    "number is too large or cannot be represented without a lack of precision " ++
      "(values below 1ns are not supported)"

end DurationError

namespace Duration

/-- Numbers have 64 bits. -/
def word (n : Nat) : Except DurationError Nat :=
  if n < Nat.pow 2 64 then .ok n else .error .notRepresentable

def extend (d : Duration) (seconds nanos : Nat) : Except DurationError Duration := do
  let nanos ← word (d.nanos + nanos)
  let seconds ← word (seconds + nanos / nanosPerSecond)
  return ⟨← word (d.seconds + seconds), nanos % nanosPerSecond⟩

/-- The digits after a point, as a quotient. -/
structure Fraction where
  numerator : Nat := 0
  denominator : Nat := 1
  deriving DecidableEq, Repr

namespace Fraction

def push (f : Fraction) (digit : Nat) : Except DurationError Fraction := do
  return ⟨← word (f.numerator * 10 + digit), ← word (f.denominator * 10)⟩

/-- The fraction of `scale`, if it is a whole number. -/
def times (f : Fraction) (scale : Nat) : Except DurationError Nat := do
  let n ← word (f.numerator * scale)
  if n % f.denominator = 0 then return n / f.denominator else throw .notRepresentable

end Fraction

def addUnits (d : Duration) (n : Nat) (fraction : Option Fraction) (unit : TimeUnit) :
    Except DurationError Duration := do
  let d ← d.extend (← word (n * unit.seconds)) (← word (n * unit.nanos))
  match fraction with
  | none => return d
  | some f =>
    if unit = .nanosecond then throw .notRepresentable
    else if unit.isLong then d.extend (← f.times unit.seconds) 0
    else d.extend 0 (← f.times (unit.seconds * nanosPerSecond + unit.nanos))

/-- Where the reading of a duration stands. -/
inductive Reading where
  /-- In front of a number, since an offset. -/
  | start (since : Nat)
  | whole (n : Nat)
  /-- After a point; the last character that belongs to the number ended at an offset. -/
  | fraction (n : Nat) (fraction : Fraction) (since : Nat)
  /-- In the name of a unit, of which the letters are kept in reverse. -/
  | unit (n : Nat) (fraction : Option Fraction) (letters : List Char)
  deriving DecidableEq, Repr

structure Reader where
  /-- What has been read so far; nothing before the first number. -/
  total : Option Duration := none
  offset : Nat := 0
  reading : Reading := .start 0
  deriving DecidableEq, Repr

namespace Reader

def isUnitLetter (c : Char) : Bool :=
  ('a' ≤ c && c ≤ 'z') || ('A' ≤ c && c ≤ 'Z') || c == 'µ'

/-- Adds the number that was read, now that its unit is known. -/
def addTerm (r : Reader) (n : Nat) (fraction : Option Fraction) (letters : List Char) :
    Except DurationError Reader := do
  let name := String.ofList letters.reverse
  match TimeUnit.ofName? name with
  | some unit => return { r with total := some (← (r.total.getD ⟨0, 0⟩).addUnits n fraction unit) }
  | none => throw (if letters.isEmpty then .unitNeeded n else .unknownUnit name)

/-- Takes one character, whose end is at `after`. -/
def step (r : Reader) (after : Nat) (c : Char) : Except DurationError Reader :=
  let digit := Decimal.digitValue c
  match r.reading with
  | .start since =>
    if Decimal.isDigit c then .ok { r with reading := .whole digit }
    else if Text.isBlank c then .ok r
    else .error (.numberExpected since)
  | .whole n => do
    if Decimal.isDigit c then return { r with reading := .whole (← word (n * 10 + digit)) }
    else if Text.isBlank c then return r
    else if isUnitLetter c then return { r with reading := .unit n none [c] }
    else if c = '.' then return { r with reading := .fraction n {} r.offset }
    else throw (.invalidCharacter r.offset)
  | .fraction n f since => do
    if Decimal.isDigit c then return { r with reading := .fraction n (← f.push digit) after }
    else if Text.isBlank c then return { r with reading := .fraction n f after }
    else if isUnitLetter c ∧ f.denominator ≠ 1 then
      return { r with reading := .unit n (some f) [c] }
    else throw (.invalidCharacter since)
  | .unit n fraction letters => do
    if isUnitLetter c then return { r with reading := .unit n fraction (c :: letters) }
    else if Decimal.isDigit c then
      return { ← r.addTerm n fraction letters with reading := .whole digit }
    else if Text.isBlank c then
      return { ← r.addTerm n fraction letters with reading := .start after }
    else throw (.invalidCharacter r.offset)

def push (r : Reader) (c : Char) : Except DurationError Reader := do
  let after := r.offset + c.utf8Size
  return { ← r.step after c with offset := after }

def finish (r : Reader) : Except DurationError Duration := do
  let r ← match r.reading with
    | .start _ => pure r
    | .whole n => r.addTerm n none []
    | .fraction n f since =>
      if f.denominator = 1 then throw (.invalidCharacter since) else r.addTerm n (some f) []
    | .unit n fraction letters => r.addTerm n fraction letters
  match r.total with
  | some d => return d
  | none => throw .empty

end Reader

/-- Reads numbers with units. A lone zero needs no unit. -/
def parse (s : String) : Except DurationError Duration := do
  if s = "0" then return ⟨0, 0⟩
  (← s.toList.foldlM Reader.push {}).finish

/-- Years, months and days in words, then hours, minutes and so on with their short units; parts
that are zero are left out. -/
def spelled (d : Duration) : String :=
  let long := fun (name : String) (n : Nat) => (n, if n = 1 then name else name ++ "s")
  let ofYear := d.seconds % TimeUnit.year.seconds
  let ofMonth := ofYear % TimeUnit.month.seconds
  let ofDay := ofMonth % TimeUnit.day.seconds
  let parts := [long "year" (d.seconds / TimeUnit.year.seconds),
    long "month" (ofYear / TimeUnit.month.seconds), long "day" (ofMonth / TimeUnit.day.seconds),
    (ofDay / 3600, "h"), (ofDay % 3600 / 60, "m"), (ofDay % 60, "s"),
    (d.nanos / 1000000, "ms"), (d.nanos / 1000 % 1000, "us"), (d.nanos % 1000, "ns")]
  match parts.filter fun (n, _) => n ≠ 0 with
  | [] => "0s"
  | shown => String.intercalate " " (shown.map fun (n, unit) => s!"{n}{unit}")

end Duration
end ClusterProbe
