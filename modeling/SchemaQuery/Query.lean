import SchemaQuery.Filter

/-!
# Compiled queries

A query is ready to be sent: the id of a database, leaf filters that must all hold, and at most one
property to sort by.
-/

namespace SchemaQuery

structure CompiledQuery where
  databaseId : Text
  filters : List LeafFilter
  sort : Option SortSpec

def SortSpec.toJson (s : SortSpec) : Json :=
  .record [("property", .string s.property), ("direction", .string s.direction.name)]

namespace CompiledQuery

variable (q : CompiledQuery)

def filterJson : Json := .record [("and", .array (q.filters.map LeafFilter.toJson))]

def sorts : List (Text × Json) :=
  match q.sort with
  | some s => [("sorts", .array [s.toJson])]
  | none => []

def toJson : Json :=
  .record (("databaseId", .string q.databaseId) :: ("filter", q.filterJson) :: q.sorts)

/-- What is sent to the database's own address, which holds the id already. -/
def requestBody : Json :=
  .record (if q.filters.isEmpty then q.sorts else ("filter", q.filterJson) :: q.sorts)

end CompiledQuery

end SchemaQuery
