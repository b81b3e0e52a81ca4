import SchemaQuery.Json
import SchemaQuery.Text.CaseFold

/-!
# The registry of databases

The registry sends names of databases to their ids. A name is looked up as it is spelled, and if it
is not there, up to letter case; of several names that differ in case only the last one counts then.
-/

namespace SchemaQuery

structure Registry where
  ids : Table Text

namespace Registry

variable (r : Registry)

/-- The entries of a configuration that name an id, if the configuration has the right form. Other
entries are passed over. -/
def ofJson? (config : Json) : Option Registry :=
  match config.member? "databases" with
  | some (.object entries) =>
    some ⟨Table.ofList (entries.filterMap fun (name, entry) =>
      match entry.member? "id" with
      | some (.string id) => some (name, id)
      | _ => none)⟩
  | _ => none

def contains (name : Text) : Bool := r.ids.contains name

def canonicalName? (name : Text) : Option Text :=
  if r.contains name then some name
  else r.ids.keys.reverse.find? fun key => key.caseFold = name.caseFold

def resolve? (name : Text) : Option (Text × Text) := do
  let key ← r.canonicalName? name
  return (key, ← r.ids.find? key)

end Registry

def unknownDatabase (name : Text) : Text := "Unknown database: " ++ name

end SchemaQuery
