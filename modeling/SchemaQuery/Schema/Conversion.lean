import SchemaQuery.Json.Use
import SchemaQuery.Schema.Document

/-!
# Schemas from database objects

The external service describes a database by an object with its properties, each an object with a
type and, under the name of that type, its configuration. Whatever is absent is taken for empty.
Anything else that does not have the expected form makes the whole conversion fail, so no property
and no option is dropped.
-/

namespace SchemaQuery

inductive ConversionError where
  /-- A part of the object is not what it is used as. -/
  | misuse (m : Misuse)
  /-- The database object has no id. -/
  | noId
  /-- Texts of an option, a property or a schema have other types. -/
  | invalid (kind : Text) (issues : List Issue)

namespace ConversionError

/-- The report on a value with issues; the other causes have no text of their own. -/
def message? : ConversionError → Option Text
  | invalid kind issues => some (reportIssues kind issues)
  | _ => none

end ConversionError

namespace Conversion

/-- A value that passed its check. -/
def ensure {α : Type} (kind : Text) : Checked α → Except ConversionError α
  | .valid a => .ok a
  | .invalid issues => .error (.invalid kind issues)

/-- A part of the object that is used as something. -/
def use {α : Type} : Except Misuse α → Except ConversionError α
  | .ok a => .ok a
  | .error m => .error (.misuse m)

def options (config : Json) : Except ConversionError (List PropertyOption) := do
  let members ← use config.members
  let items ← use (Json.get "options" members).presentItems
  items.mapM fun item => ensure "PropertyOption" (PropertyOption.check item)

/-- The options of a property whose type is given, if the type is an enumerated one. -/
def optionsOfType (entries : Entries Json) :
    Json → Except ConversionError (Option (List PropertyOption))
  | .string type =>
    if Property.enumeratedTypes.contains type then
      some <$> options (Json.get type entries)
    else .ok none
  | .array _ => .error (.misuse .unusable)
  | .object _ => .error (.misuse .unusable)
  | _ => .ok none

/-- The property that an object under a key describes. Its name is the key unless it gives one. -/
def property (key : Text) : Json → Except ConversionError Property
  | .object entries => do
    let type := (Entries.find? "type" entries).getD (.string [])
    let options ← optionsOfType entries type
    let id := (Entries.find? "id" entries).getD (.string [])
    let name := (Entries.find? "name" entries).getD (.string key)
    ensure "Property"
      (Property.mk
        <$> (Json.checkText id).within (.key "id")
        <*> (Json.checkText type).within (.key "type")
        <*> (Json.checkText name).within (.key "name")
        <*> .valid options)
  | _ => .error (.misuse .notObject)

/-- The schema that a database object describes. Its title is the registered name, not the title
that the database shows. -/
def schema (name : Text) (raw : Json) (fetchedAt : Moment) :
    Except ConversionError DatabaseSchema :=
  match raw with
  | .object entries => do
    let members ← use (Json.get "properties" entries).members
    let properties ← members.mapM fun (key, v) => Prod.mk key <$> property key v
    match Entries.find? "id" entries with
    | none => .error .noId
    | some id =>
      ensure "DatabaseSchema"
        (DatabaseSchema.mk
          <$> (Json.checkText id).within (.key "id")
          <*> .valid name
          <*> .valid (Table.ofList properties)
          <*> .valid fetchedAt)
  | _ => .error (.misuse .notObject)

end Conversion

end SchemaQuery
