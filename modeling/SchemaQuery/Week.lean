import SchemaQuery.DatePhrase

/-!
# Weeks

A week is a stretch of seven days from any day on; its last day is the one before `stop`. Weeks that
would reach past the end of the calendar do not exist.
-/

namespace SchemaQuery

structure Week where
  start : Date
  stop : Date
  deriving DecidableEq

/-- From which day a week is counted. -/
inductive WeekAnchor where
  /-- The next Monday, or today if today is one. -/
  | upcoming
  | date (d : Date)
  /-- The date that a text denotes. -/
  | phrase (text : Text)

namespace Week

def from? (start : Date) : Option Week := (start.addDays? 7).map fun stop => ⟨start, stop⟩

def upcoming? (now : Moment) : Option Week := now.date.nextMonday?.bind from?

def resolve (anchor : WeekAnchor) (now : Moment) : Logged (Option Week) :=
  match anchor with
  | .upcoming => pure (upcoming? now)
  | .date d => pure (from? d)
  | .phrase text => from? <$> resolveDate (some text) now

end Week

end SchemaQuery
