import SchemaQuery.Calendar.Date

/-!
# Moments

A moment is a date and a time of day on the wall, with or without an offset from UTC. A date alone
stands for its midnight without an offset.
-/

namespace SchemaQuery

structure TimeOfDay where
  hour : Nat
  minute : Nat
  second : Nat
  microsecond : Nat
  hour_lt : hour < 24
  minute_lt : minute < 60
  second_lt : second < 60
  microsecond_lt : microsecond < 1000000
  deriving DecidableEq

namespace TimeOfDay

def midnight : TimeOfDay := ⟨0, 0, 0, 0, by decide, by decide, by decide, by decide⟩

instance : Inhabited TimeOfDay := ⟨midnight⟩

def of? (hour minute second microsecond : Nat) : Option TimeOfDay :=
  if h : hour < 24 ∧ minute < 60 ∧ second < 60 ∧ microsecond < 1000000 then
    some ⟨hour, minute, second, microsecond, h.1, h.2.1, h.2.2.1, h.2.2.2⟩
  else none

theorem of?_self (t : TimeOfDay) : of? t.hour t.minute t.second t.microsecond = some t := by
  simp [of?, t.hour_lt, t.minute_lt, t.second_lt, t.microsecond_lt]

/-- The time a number of microseconds after midnight; whole days are left out. -/
def ofMicroseconds (n : Nat) : TimeOfDay where
  hour := n / 3600000000 % 24
  minute := n / 60000000 % 60
  second := n / 1000000 % 60
  microsecond := n % 1000000
  hour_lt := Nat.mod_lt _ (by decide)
  minute_lt := Nat.mod_lt _ (by decide)
  second_lt := Nat.mod_lt _ (by decide)
  microsecond_lt := Nat.mod_lt _ (by decide)

/-- The six decimals of a second, left out when they are all zero. -/
def writeFraction (microsecond : Nat) : Text :=
  if microsecond = 0 then [] else .scalar '.' :: Text.padded 6 microsecond

/-- The time as `HH:MM:SS`, with six decimals if there are microseconds. -/
def write (t : TimeOfDay) : Text :=
  Text.padded 2 t.hour ++ ":" ++ Text.padded 2 t.minute ++ ":" ++ Text.padded 2 t.second ++
    writeFraction t.microsecond

end TimeOfDay

/-- A distance of less than a day east (positive) or west of UTC. -/
structure UtcOffset where
  microseconds : Int
  gt : -86400000000 < microseconds
  lt : microseconds < 86400000000
  deriving DecidableEq

namespace UtcOffset

def utc : UtcOffset := ⟨0, by decide, by decide⟩

instance : Inhabited UtcOffset := ⟨utc⟩

def of? (microseconds : Int) : Option UtcOffset :=
  if h : -86400000000 < microseconds ∧ microseconds < 86400000000 then
    some ⟨microseconds, h.1, h.2⟩
  else none

/-- The offset as `±HH:MM`, with seconds and their decimals only where they are not zero. -/
def write (o : UtcOffset) : Text :=
  let t := TimeOfDay.ofMicroseconds o.microseconds.natAbs
  let sign : Text := if o.microseconds < 0 then "-" else "+"
  let seconds : Text :=
    if t.second = 0 ∧ t.microsecond = 0 then []
    else ":" ++ Text.padded 2 t.second ++ TimeOfDay.writeFraction t.microsecond
  sign ++ Text.padded 2 t.hour ++ ":" ++ Text.padded 2 t.minute ++ seconds

end UtcOffset

/-- A date and time on the wall, with an offset from UTC if it is known. -/
structure Moment where
  date : Date
  time : TimeOfDay
  offset : Option UtcOffset
  deriving DecidableEq, Inhabited

namespace Moment

/-- The midnight at which a date begins. -/
def ofDate (d : Date) : Moment := ⟨d, .midnight, none⟩

/-- Whether the date's midnight, on the same wall, lies before the moment. -/
def isAfterMidnightOf (m : Moment) (d : Date) : Prop :=
  d < m.date ∨ d = m.date ∧ m.time ≠ .midnight

instance (m : Moment) (d : Date) : Decidable (m.isAfterMidnightOf d) :=
  inferInstanceAs (Decidable (_ ∨ _))

/-- The moment as `YYYY-MM-DDTHH:MM:SS`, with decimals and offset where there are any. -/
def write (m : Moment) : Text :=
  m.date.write ++ "T" ++ m.time.write ++
    match m.offset with
    | some o => o.write
    | none => []

end Moment

end SchemaQuery
