import SchemaQuery.Text

/-!
# Calendar dates

Dates of the Gregorian calendar from 0001-01-01 to 9999-12-31, extended backwards over all years.
The ordinal of a date counts the days from 0001-01-01, which is a Monday and has the ordinal 1.
-/

namespace SchemaQuery

namespace Calendar

def isLeap (year : Nat) : Bool := year % 4 == 0 && (year % 100 != 0 || year % 400 == 0)

/-- The length of a month, 0 for a number that is no month. -/
def daysInMonth (year month : Nat) : Nat :=
  if month = 2 then if isLeap year then 29 else 28
  else if month = 4 ∨ month = 6 ∨ month = 9 ∨ month = 11 then 30
  else if 1 ≤ month ∧ month ≤ 12 then 31
  else 0

def daysInYear (year : Nat) : Nat := if isLeap year then 366 else 365

def daysBeforeYear (year : Nat) : Nat :=
  (year - 1) * 365 + (year - 1) / 4 - (year - 1) / 100 + (year - 1) / 400

def daysBeforeMonth (year : Nat) : Nat → Nat
  | 0 => 0
  | month + 1 => daysBeforeMonth year month + daysInMonth year month

end Calendar

open Calendar

structure Date where
  year : Nat
  month : Nat
  day : Nat
  year_pos : 1 ≤ year
  year_le : year ≤ 9999
  day_pos : 1 ≤ day
  day_le : day ≤ daysInMonth year month
  deriving DecidableEq

namespace Date

variable (d : Date)

def of? (year month day : Nat) : Option Date :=
  if h : 1 ≤ year ∧ year ≤ 9999 ∧ 1 ≤ day ∧ day ≤ daysInMonth year month then
    some ⟨year, month, day, h.1, h.2.1, h.2.2.1, h.2.2.2⟩
  else none

theorem of?_self : of? d.year d.month d.day = some d := by
  simp [of?, d.year_pos, d.year_le, d.day_pos, d.day_le]

def first : Date := ⟨1, 1, 1, by decide, by decide, by decide, by decide⟩

instance : Inhabited Date := ⟨first⟩

/-- The number of days from 0001-01-01, both included. -/
def ordinal : Nat := daysBeforeYear d.year + daysBeforeMonth d.year d.month + d.day

instance : LT Date := ⟨fun a b => a.ordinal < b.ordinal⟩

instance : LE Date := ⟨fun a b => a.ordinal ≤ b.ordinal⟩

instance (a b : Date) : Decidable (a < b) := inferInstanceAs (Decidable (a.ordinal < b.ordinal))

instance (a b : Date) : Decidable (a ≤ b) := inferInstanceAs (Decidable (a.ordinal ≤ b.ordinal))

/-- Takes whole years off a number of days, at most `limit` of them. -/
def peelYears : (limit year days : Nat) → Nat × Nat
  | 0, year, days => (year, days)
  | limit + 1, year, days =>
    if days ≤ daysInYear year then (year, days)
    else peelYears limit (year + 1) (days - daysInYear year)

/-- Takes whole months off a number of days, at most `limit` of them. -/
def peelMonths (year : Nat) : (limit month days : Nat) → Nat × Nat
  | 0, month, days => (month, days)
  | limit + 1, month, days =>
    if days ≤ daysInMonth year month then (month, days)
    else peelMonths year limit (month + 1) (days - daysInMonth year month)

/-- The date with a given ordinal; none before 0001-01-01 and after 9999-12-31. -/
def ofOrdinal? (n : Nat) : Option Date :=
  let (year, days) := peelYears 9998 1 n
  let (month, day) := peelMonths year 11 1 days
  of? year month day

/-- Days later; none past 9999-12-31. -/
def addDays? (n : Nat) : Option Date := ofOrdinal? (d.ordinal + n)

/-- Days since the last Monday. -/
def weekday : Nat := (d.ordinal + 6) % 7

/-- The day itself if it is a Monday, else the first Monday after it. -/
def nextMonday? : Option Date := d.addDays? ((7 - d.weekday) % 7)

/-- The date as `YYYY-MM-DD`. -/
def write : Text :=
  Text.padded 4 d.year ++ "-" ++ Text.padded 2 d.month ++ "-" ++ Text.padded 2 d.day

end Date

end SchemaQuery
