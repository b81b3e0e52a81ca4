import SchemaQuery.Request
import SchemaQuery.Week

/-!
# Leaf filters

A filter of a request becomes a leaf of the query that is sent. Operands of date filters are texts
about dates, and are resolved against a reference moment; all other operands are passed on.
-/

namespace SchemaQuery

/-- The filter types that the external service has a fixed form for. -/
inductive OperatorKind where
  | select
  | status
  | multiSelect
  | text
  | number
  deriving DecidableEq

namespace OperatorKind

def name : OperatorKind → Text
  | select => "select"
  | status => "status"
  | multiSelect => "multi_select"
  | text => "text"
  | number => "number"

def all : List OperatorKind := [select, status, multiSelect, text, number]

def ofName? (t : Text) : Option OperatorKind := all.find? fun kind => kind.name = t

end OperatorKind

inductive DateOperand where
  | date (d : Date)
  /-- An operand that is no text about a date is left as it was given. -/
  | given (v : Json)

namespace DateOperand

def toJson : DateOperand → Json
  | date d => .string d.write
  | given v => v

end DateOperand

inductive LeafFilter where
  | operator (kind : OperatorKind) (property operator : Text) (value : Json)
  /-- A filter of any other type. -/
  | passedOn (property filterType operator : Text) (value : Json)
  | onDate (property operator : Text) (operand : DateOperand)
  /-- From the first day of a week on, and before the day after its last. -/
  | inWeek (property : Text) (week : Week)

namespace LeafFilter

/-- A property and one condition on it. A filter type that is itself called `property` takes the
place of the property. -/
def condition (property filterType : Text) (operators : List (Text × Json)) : Json :=
  .record [("property", .string property), (filterType, .record operators)]

def toJson : LeafFilter → Json
  | operator kind property op value => condition property kind.name [(op, value)]
  | passedOn property filterType op value => condition property filterType [(op, value)]
  | onDate property op operand => condition property "date" [(op, operand.toJson)]
  | inWeek property week =>
    condition property "date"
      [("on_or_after", .string week.start.write), ("before", .string week.stop.write)]

end LeafFilter

namespace FilterSpec

/-- The operator that asks for the upcoming week, whatever its operand is. -/
def nextWeek : Text := "next_week"

/-- The words that ask for a week from the date on that follows. -/
def weekOf : Text := "week of"

variable (f : FilterSpec) (now : Moment)

/-- The leaf of a date filter; none when its week passes the end of the calendar. -/
def dateLeaf : Logged (Option LeafFilter) :=
  if f.operator = nextWeek then pure ((Week.upcoming? now).map (.inWeek f.property))
  else
    match f.value with
    | .string [] => pure (some (.onDate f.property f.operator (.given (.string []))))
    | .string t =>
      if Text.includes weekOf t then
        Option.map (LeafFilter.inWeek f.property) <$> Week.resolve (.phrase t) now
      else (fun d => some (.onDate f.property f.operator (.date d))) <$> resolveDate (some t) now
    | v => pure (some (.onDate f.property f.operator (.given v)))

/-- The leaf of a filter; none when a week passes the end of the calendar. -/
def leaf : Logged (Option LeafFilter) :=
  if f.filterType = "date" then f.dateLeaf now
  else
    match OperatorKind.ofName? f.filterType with
    | some kind => pure (some (.operator kind f.property f.operator f.value))
    | none => pure (some (.passedOn f.property f.filterType f.operator f.value))

end FilterSpec

end SchemaQuery
