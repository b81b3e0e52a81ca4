import SchemaQuery.Calendar.Moment
import SchemaQuery.Log
import SchemaQuery.Text.Blank
import SchemaQuery.Text.Digit

/-!
# English date phrases

A date phrase is `<day>[st|nd|rd|th] [of] <month> [<year>]` anywhere in a text; the first one
counts. With a year it denotes that day of the calendar. Without one it denotes the next such day
from the reference moment on. A text without a phrase, or with one that is no day of the calendar,
denotes the reference day itself.
-/

namespace SchemaQuery

structure DatePhrase where
  day : Nat
  month : Nat
  /-- The month was spelled with the dotless `ı`: it looks like a month, but names none. -/
  isDotless : Bool
  year : Option Nat
  deriving DecidableEq

namespace DatePhrase

def monthNames : List String :=
  ["january", "february", "march", "april", "may", "june", "july", "august", "september",
    "october", "november", "december"]

/-- Whether a code point is a lower-case ASCII letter in some case. The long `ſ` counts as an `s`,
and `i` has a dotted capital and a dotless small form. -/
def isLetter (letter : Char) : CodePoint → Bool
  | .scalar c =>
    c = letter || c = letter.toUpper || (letter = 's' && c = 'ſ') ||
      (letter = 'i' && (c = 'İ' || c = 'ı'))
  | .surrogate _ => false

/-- What follows a lower-case word in any case, and the word as it is spelled. -/
def word? : (word : List Char) → Text → Option (Text × Text)
  | [], t => some ([], t)
  | _ :: _, [] => none
  | letter :: word, c :: t =>
    if isLetter letter c then (word? word t).map fun (spelled, rest) => (c :: spelled, rest)
    else none

/-- The rest behind one blank or more. -/
def blanks? (t : Text) : Option Text :=
  match t with
  | [] => none
  | c :: _ => if c.isBlank then some (t.dropWhile CodePoint.isBlank) else none

/-- One digit or two of any script. -/
def day? : Text → Option (Nat × Text)
  | [] => none
  | a :: t =>
    match a.decimalDigit?, t with
    | none, _ => none
    | some m, [] => some (m, [])
    | some m, b :: rest =>
      match b.decimalDigit? with
      | some n => some (10 * m + n, rest)
      | none => some (m, t)

/-- The text behind an ordinal ending, if there is one. -/
def withoutEnding (t : Text) : Text :=
  match ["st", "nd", "rd", "th"].findSome? fun ending => word? ending.toList t with
  | some (_, rest) => rest
  | none => t

/-- The text behind the word `of` and blanks, if they are there. -/
def withoutOf (t : Text) : Text :=
  match word? ['o', 'f'] t with
  | some (_, rest) => (blanks? rest).getD t
  | none => t

/-- The month named in front, the name as it is spelled, and the rest. -/
def month? (t : Text) : Option (Nat × Text × Text) :=
  (monthNames.zipIdx 1).findSome? fun (name, number) =>
    (word? name.toList t).map fun (spelled, rest) => (number, spelled, rest)

/-- Blanks and four digits. -/
def year? (t : Text) : Option Nat := do
  let digits := (← blanks? t).take 4
  if digits.length = 4 then (digits.mapM CodePoint.decimalDigit?).map Text.number else none

def atStart? (t : Text) : Option DatePhrase := do
  let (day, rest) ← day? t
  let rest ← blanks? (withoutEnding rest)
  let (month, spelled, rest) ← month? (withoutOf rest)
  return ⟨day, month, spelled.contains (.scalar 'ı'), year? rest⟩

def find? : Text → Option DatePhrase
  | [] => none
  | c :: t => (atStart? (c :: t)).orElse fun _ => find? t

def pivotYear (n : Nat) : Nat := if n ≤ 68 then 2000 + n else 1900 + n

/-- The date that a day, a month and a year denote. Four digits are a year. Otherwise one of day and
year has to be a short year: the one that can be no day of a month. -/
def date? (day month year : Nat) : Option Date :=
  if 1000 ≤ year then Date.of? year month day
  else if 32 ≤ day ∧ 1 ≤ year ∧ year ≤ 31 then Date.of? (pivotYear day) month year
  else if 10 ≤ year ∧ year ≤ 99 then Date.of? (pivotYear year) month day
  else none

variable (p : DatePhrase)

/-- The date of the phrase in a given year. -/
def dateIn? (day year : Nat) : Option Date :=
  if p.isDotless then none else date? day p.month year

/-- The day of the phrase placed in a year; 29 February moves to the 28th in a common year. -/
def place? (year : Nat) : Option Date :=
  p.dateIn? (if p.day = 29 ∧ p.month = 2 ∧ !Calendar.isLeap year then 28 else p.day) year

/-- The date that the phrase denotes at a moment. Without a year it is the first placed day whose
midnight is not before the moment. -/
def resolve? (now : Moment) : Option Date :=
  match p.year with
  | some year => p.dateIn? p.day year
  | none =>
    match p.place? now.date.year with
    | some d => if now.isAfterMidnightOf d then p.place? (now.date.year + 1) else some d
    | none => none

end DatePhrase

/-- The date that a text denotes at a moment, the day of the moment itself if it denotes none. -/
def resolveDate (text : Option Text) (now : Moment) : Logged Date :=
  match DatePhrase.find? (text.getD []) with
  | none => .withEvent (.unparsedDate text) now.date
  | some phrase =>
    match phrase.resolve? now with
    | some d => pure d
    | none => .withEvent (.impossibleDate (text.getD [])) now.date

end SchemaQuery
