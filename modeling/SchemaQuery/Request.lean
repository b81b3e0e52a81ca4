import SchemaQuery.Json

/-!
# Query requests

A request names a database, conditions on its properties and perhaps an order. It says what a caller
wants; whether the database has such properties is checked later, against a schema.
-/

namespace SchemaQuery

/-- One condition: a property, the kind of filter, its operator and an operand of any form. -/
structure FilterSpec where
  property : Text
  filterType : Text
  operator : Text
  value : Json

inductive SortDirection where
  | ascending
  | descending
  deriving DecidableEq

namespace SortDirection

def name : SortDirection → Text
  | ascending => "ascending"
  | descending => "descending"

/-- Directions have to be spelled exactly. -/
def ofName? (t : Text) : Option SortDirection :=
  if t = ascending.name then some ascending
  else if t = descending.name then some descending
  else none

theorem ofName?_name (d : SortDirection) : ofName? d.name = some d := by cases d <;> decide

end SortDirection

structure SortSpec where
  property : Text
  direction : SortDirection
  deriving DecidableEq

structure QueryRequest where
  database : Text
  filters : List FilterSpec
  sort : Option SortSpec

end SchemaQuery
