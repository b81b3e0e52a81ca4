import SchemaQuery.Calendar.Moment
import SchemaQuery.Table

/-!
# Database schemas

A schema is a snapshot of the properties that one external database had at some moment. It is
replaced as a whole when it is fetched again.
-/

namespace SchemaQuery

structure PropertyOption where
  id : Text
  name : Text
  color : Text
  deriving DecidableEq

/-- One property. Only enumerated types have options, and such a property may have none of them. -/
structure Property where
  id : Text
  type : Text
  name : Text
  options : Option (List PropertyOption)
  deriving DecidableEq

namespace Property

def enumeratedTypes : List Text := ["select", "multi_select", "status"]

variable (p : Property)

def isEnumerated : Bool := enumeratedTypes.contains p.type

def optionNames : List Text := (p.options.getD []).map PropertyOption.name

end Property

structure DatabaseSchema where
  id : Text
  title : Text
  properties : Table Property
  lastUpdated : Moment

namespace DatabaseSchema

def titleProperty? (s : DatabaseSchema) : Option Text :=
  (List.find? (fun (_, p) => p.type = "title") s.properties.entries).map Prod.fst

end DatabaseSchema

/-- The schemas of all databases, by the names under which they are registered. -/
abbrev Snapshot := Table DatabaseSchema

end SchemaQuery
