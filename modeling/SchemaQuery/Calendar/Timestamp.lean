import SchemaQuery.Binary64.Reader
import SchemaQuery.Calendar.Moment

/-!
# Timestamps in stored documents

A stored moment is written in one form and read in many: an RFC 3339 text with the usual liberties,
a date alone, or Unix time, in seconds up to 2e10 and in milliseconds beyond.
-/

namespace SchemaQuery

inductive TimestampFault where
  /-- The text has none of the forms. -/
  | unreadable
  /-- The moment is outside of the calendar. -/
  | outOfRange
  deriving DecidableEq

namespace Timestamp

/-- The ordinal of 1970-01-01. -/
def epochOrdinal : Int := 719163

/-- The moment a number of microseconds after the epoch, in UTC. The year before year 1 has
moments that no date can hold; further away there is nothing. -/
def ofEpoch (microseconds : Int) : Except TimestampFault Moment :=
  let day := microseconds.fdiv 86400000000 + epochOrdinal
  match Date.ofOrdinal? day.toNat with
  | some date =>
    .ok ⟨date, .ofMicroseconds (microseconds.fmod 86400000000).toNat, some .utc⟩
  | none => .error (if -366 < day ∧ day ≤ 0 then .outOfRange else .unreadable)

/-- Whether a number of units, `one` of them in one, is no more than 2e10 and so counts seconds. -/
def countsSeconds (one : Nat) (units : Int) : Bool := units.natAbs ≤ 20000000000 * one

def ofWhole (n : Int) : Except TimestampFault Moment :=
  ofEpoch (if countsSeconds 1 n then n * 1000000 else n * 1000)

/-- The microseconds in a double that counts spans of time. Whole spans are exact; what is beyond
them is turned into microseconds with a double's precision, and then rounded, a half upwards. -/
def microseconds (span : Nat) (units : Int) : Int :=
  let beyond := Magnitude.roundedUnits (units.fmod Magnitude.one).toNat 1
  let product := Magnitude.roundedUnits (beyond * span) 1
  units.fdiv Magnitude.one * span + ((2 * product + Magnitude.one) / (2 * Magnitude.one) : Nat)

/-- The moment of a Unix time given as a double. -/
def ofBinary64 (x : Binary64) : Except TimestampFault Moment :=
  match x.units? with
  | some units =>
    ofEpoch (microseconds (if countsSeconds Magnitude.one units then 1000000 else 1000) units)
  | none => .error .unreadable

/-- The moment of a Unix time written with a point. Milliseconds are turned into seconds first. -/
def ofDecimal (x : Binary64) : Except TimestampFault Moment :=
  match x.units? with
  | some units =>
    let seconds : Int :=
      if countsSeconds Magnitude.one units then units
      else units.sign * Magnitude.roundedUnits units.natAbs 1000
    ofEpoch (microseconds 1000000 seconds)
  | none => .error .unreadable

/-- A sign, digits, and perhaps a point; behind a point there may be more digits and an exponent. -/
def ofNumeral? (t : Text) : Option (Except TimestampFault Moment) :=
  let (negative, t) := Text.sign t
  match Text.spanDigits t with
  | ([], []) => none
  | (digits, []) =>
    let n : Int := Text.number digits
    some (ofWhole (if negative then -n else n))
  | (_, c :: _) =>
    if c = .scalar '.' then (Binary64.ofNumeral? negative t).map ofDecimal else none

/-- `HH:MM`, then `:SS` and decimals if they are there. -/
def time? (t : Text) : Option (TimeOfDay × Text) := do
  let (hour, t) ← Text.digits? 2 t
  let (minute, t) ← Text.digits? 2 (← Text.after? ":" t)
  match t with
  | .scalar ':' :: t =>
    let (second, t) ← Text.digits? 2 t
    match t with
    | [] => return (← TimeOfDay.of? hour minute second 0, [])
    | c :: rest =>
      if c = .scalar '.' ∨ c = .scalar ',' then
        match Text.spanDigits rest with
        | ([], _) => none
        | (decimals, rest) =>
          let kept := decimals.take 6
          let microsecond := Text.number kept * 10 ^ (6 - kept.length)
          return (← TimeOfDay.of? hour minute second microsecond, rest)
      else return (← TimeOfDay.of? hour minute second 0, t)
  | _ => return (← TimeOfDay.of? hour minute 0 0, t)

/-- `HH:MM` or `HHMM` behind the sign of an offset. -/
def distance? (negative : Bool) (t : Text) : Option UtcOffset := do
  let (hour, t) ← Text.digits? 2 t
  let (minute, t) ← Text.digits? 2 (Text.without ":" t)
  if t = [] ∧ minute < 60 then
    let n : Int := (hour * 60 + minute : Nat) * 60000000
    UtcOffset.of? (if negative then -n else n)
  else none

/-- `Z`, or a sign and a distance. The sign may be the minus sign U+2212. -/
def offset? : Text → Option (Option UtcOffset)
  | [] => some none
  | [.scalar 'Z'] => some (some .utc)
  | [.scalar 'z'] => some (some .utc)
  | .scalar '+' :: t => (distance? false t).map some
  | .scalar '-' :: t => (distance? true t).map some
  | .scalar '\u2212' :: t => (distance? true t).map some
  | _ => none

def isSeparator (c : CodePoint) : Bool :=
  c = .scalar 'T' || c = .scalar 't' || c = .scalar ' ' || c = .scalar '_'

/-- `YYYY-MM-DD`, alone or with a separator, a time and perhaps an offset behind it. The year may
still be zero. -/
def parts? (t : Text) : Option ((Nat × Nat × Nat) × TimeOfDay × Option UtcOffset) := do
  let (year, t) ← Text.digits? 4 t
  let (month, t) ← Text.digits? 2 (← Text.after? "-" t)
  let (day, t) ← Text.digits? 2 (← Text.after? "-" t)
  if day < 1 ∨ Calendar.daysInMonth year month < day then none
  else
    match t with
    | [] => return ((year, month, day), .midnight, none)
    | c :: t =>
      if isSeparator c then
        let (time, t) ← time? t
        return ((year, month, day), time, ← offset? t)
      else none

def read (t : Text) : Except TimestampFault Moment :=
  match parts? t with
  | some ((year, month, day), time, offset) =>
    match Date.of? year month day with
    | some date => .ok ⟨date, time, offset⟩
    | none => .error .outOfRange
  | none => (ofNumeral? t).getD (.error .unreadable)

/-- The seconds of an offset in either direction, a half rounded up. -/
def roundedSeconds (o : UtcOffset) : Nat := (o.microseconds.natAbs / 500000 + 1) / 2

def offsetSign (o : UtcOffset) : Char := if o.microseconds < 0 then '-' else '+'

/-- The stored form of an offset: rounded to a second and then cut down to whole minutes. One of no
second is `Z`. -/
def writeOffset (o : UtcOffset) : Text :=
  if roundedSeconds o = 0 then "Z"
  else
    let minutes := roundedSeconds o / 60
    .scalar (offsetSign o) ::
      (Text.padded 2 (minutes / 60) ++ ":" ++ Text.padded 2 (minutes % 60))

def write (m : Moment) : Text :=
  m.date.write ++ "T" ++ m.time.write ++
    match m.offset with
    | some o => writeOffset o
    | none => []

end Timestamp

end SchemaQuery
