import SchemaQuery.Schema

/-!
# Descriptions of schemas

What a writer of requests is told: every database with its properties, and the values that the
properties of one choice can take.
-/

namespace SchemaQuery

/-- The type of a property, with the options of a single choice. -/
def Property.describe (p : Property) : Text :=
  if p.type = "select" ∨ p.type = "status" then
    List.flatten [p.type, ": ", Text.join ", " p.optionNames]
  else p.type

/-- A line for the database and a line for each property. -/
def DatabaseSchema.describe (name : Text) (s : DatabaseSchema) : Text :=
  let properties := s.properties.entries.map fun (key, p) =>
    List.flatten ["   - ", key, " (", p.describe, ")"]
  List.flatten [name, " - Contains ", name, " information with properties:\n",
    Text.join "\n" properties]

def Snapshot.describe (s : Snapshot) : Text :=
  Text.join "\n\n" (s.entries.map fun (name, schema) => schema.describe name)

end SchemaQuery
