import SchemaQuery.Calendar.Moment

/-!
# ISO 8601 moments

Reads the moments that a user types as a reference instant. The date is a calendar date or a week
date, in the form with hyphens or in the compact one. One character of any kind stands between date
and time. The time has hours and perhaps minutes, seconds and a fraction, again with colons or
compact; an offset from UTC may follow, or `Z`.

What is read where is decided by position. A time before an offset may be followed by one stray
character, or by anything after six decimals, and NUL counts as the end of the text.
-/

namespace SchemaQuery

namespace Iso

def isAtEnd : Text → Bool
  | [] => true
  | c :: _ => c = .scalar '\x00'

/-- Whether the year has 53 weeks: the weeks belong to the year of their Thursday. -/
def hasWeek53 (year : Nat) : Bool :=
  let weekday := (Calendar.daysBeforeYear year + 7) % 7
  weekday == 3 || (weekday == 2 && Calendar.isLeap year)

/-- The ordinal of the Monday of a year's first week, the one with the year's first Thursday. -/
def firstMonday (year : Nat) : Nat :=
  let newYear := Calendar.daysBeforeYear year + 1
  let weekday := (newYear + 6) % 7
  if 3 < weekday then newYear + 7 - weekday else newYear - weekday

def weekDate? (year week day : Nat) : Option Date :=
  if 1 ≤ year ∧ 1 ≤ week ∧ (week ≤ 52 ∨ week = 53 ∧ hasWeek53 year) ∧ 1 ≤ day ∧ day ≤ 7 then
    Date.ofOrdinal? (firstMonday year + (week - 1) * 7 + (day - 1))
  else none

def isDigitAt (t : Text) (i : Nat) : Bool :=
  match t[i]? with
  | some c => c.is Char.isDigit
  | none => false

/-- How many characters the date takes, told by the characters that mark its form. -/
def dateLength? (t : Text) : Option Nat :=
  let isAt (i : Nat) (c : Char) : Bool := t[i]? = some (.scalar c)
  if t.length < 7 then none
  else if t.length = 7 then some 7
  else if isAt 4 '-' then
    if isAt 5 'W' then
      if isAt 8 '-' then
        if t.length = 9 then none
        else if isDigitAt t 10 then some 8
        else some 10
      else some 8
    else some 10
  else if isAt 4 'W' then
    let stop := 7 + ((t.drop 7).takeWhile (·.is Char.isDigit)).length
    if stop < 9 then some stop else if stop % 2 = 0 then some 7 else some 8
  else some 8

/-- The date in front of a text, given how many characters it takes. -/
def date? (length : Nat) (t : Text) : Option Date := do
  let (year, rest) ← Text.digits? 4 t
  let hyphens := rest.head? = some (.scalar '-')
  let separate (rest : Text) : Option Text := if hyphens then Text.after? "-" rest else some rest
  let rest ← separate rest
  match Text.after? "W" rest with
  | some rest =>
    let (week, rest) ← Text.digits? 2 rest
    if t.length - rest.length < length then
      let (day, _) ← Text.digits? 1 (← separate rest)
      weekDate? year week day
    else weekDate? year week 1
  | none =>
    let (month, rest) ← Text.digits? 2 rest
    let (day, _) ← Text.digits? 2 (← separate rest)
    Date.of? year month day

/-- The numbers of a time or an offset, and whether something was left over behind them. -/
structure Clock where
  fields : List Nat
  microsecond : Nat
  leftover : Bool

namespace Clock

def hour (c : Clock) : Nat := c.fields.getD 0 0
def minute (c : Clock) : Nat := c.fields.getD 1 0
def second (c : Clock) : Nat := c.fields.getD 2 0

/-- The microseconds that the numbers add up to. -/
def total (c : Clock) : Nat :=
  (c.hour * 3600 + c.minute * 60 + c.second) * 1000000 + c.microsecond

/-- Decimals of a second: the first six count, and digits after them are passed over. -/
def fraction? (t : Text) : Option Clock :=
  let count := min 6 t.length
  match Text.digits? count t with
  | some (n, rest) =>
    some ⟨[], n * 10 ^ (6 - count), !isAtEnd (rest.dropWhile (·.is Char.isDigit))⟩
  | none => none

/-- At most `count` fields of two digits and then perhaps a fraction. The first separator decides
whether there are colons. -/
def read? : (count : Nat) → (colons : Option Bool) → Text → Option Clock
  | 0, _, t => fraction? t
  | count + 1, colons, t => do
    let (field, rest) ← Text.digits? 2 t
    let later ←
      match rest with
      | [] => some ⟨[], 0, false⟩
      | [c] => if c.value < 128 then some ⟨[], 0, !isAtEnd [c]⟩ else none
      | c :: rest =>
        let colons := colons.getD (c = .scalar ':')
        if colons && c = .scalar ':' then read? count (some true) rest
        else if c = .scalar '.' ∨ c = .scalar ',' then fraction? rest
        else if colons then none
        else read? count (some false) (c :: rest)
    some { later with fields := field :: later.fields }

end Clock

/-- An offset from UTC behind its sign. One below a second is taken for none. -/
def offset? (negative : Bool) (t : Text) : Option UtcOffset := do
  let clock ← Clock.read? 3 none t
  if clock.leftover then none
  else if clock.total < 1000000 then some .utc
  else UtcOffset.of? (if negative then -(clock.total : Int) else clock.total)

def isZoneMark (c : CodePoint) : Bool :=
  c = .scalar '+' || c = .scalar '-' || c = .scalar 'Z'

def time? (t : Text) : Option (TimeOfDay × Option UtcOffset) := do
  let clock ← Clock.read? 3 none (t.takeWhile (!isZoneMark ·))
  let offset ←
    match t.dropWhile (!isZoneMark ·) with
    | [] => if clock.leftover then none else some none
    | mark :: rest =>
      if mark = .scalar 'Z' then if isAtEnd rest then some (some .utc) else none
      else (offset? (mark = .scalar '-') rest).map some
  let time ← TimeOfDay.of? clock.hour clock.minute clock.second clock.microsecond
  return (time, offset)

end Iso

/-- A surrogate where a separator may stand is as good as any separator. -/
def Iso.tameSeparator (t : Text) : Text :=
  match [7, 8, 10].find? fun i => t[i]?.any (!·.isScalar) with
  | some i => t.set i (.scalar 'T')
  | none => t

namespace Moment

/-- The moment that a text of scalar values denotes. -/
def readScalar? (t : Text) : Option Moment := do
  let length ← Iso.dateLength? t
  let date ← Iso.date? length t
  match t.drop length with
  | [] => return ofDate date
  | _ :: rest =>
    let (time, offset) ← Iso.time? rest
    return ⟨date, time, offset⟩

/-- The moment that an ISO text denotes; a date alone is its midnight. Surrogates are not passed
over, whatever else is. -/
def read? (text : Text) : Option Moment :=
  let t := Iso.tameSeparator text
  if t.isScalar then readScalar? t else none

end Moment

end SchemaQuery
