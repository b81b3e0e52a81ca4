import SchemaQuery.Calendar.Timestamp
import SchemaQuery.Issue
import SchemaQuery.Schema

/-!
# Snapshots as documents

A snapshot is stored as one object with a member for each database. What is absent in a schema is
left out when it is written. Reading passes over members it does not know, and takes timestamps in
more forms than it writes.
-/

namespace SchemaQuery

inductive SnapshotError where
  | notObject
  /-- The first schema that is not well formed, with all its issues. -/
  | invalid (issues : List Issue)

namespace SnapshotError

def message : SnapshotError → Text
  | notObject => "schema snapshot must be a JSON object"
  | invalid issues => reportIssues "DatabaseSchema" issues

end SnapshotError

namespace PropertyOption

def toJson (o : PropertyOption) : Json :=
  .record [("id", .string o.id), ("name", .string o.name), ("color", .string o.color)]

def check : Json → Checked PropertyOption
  | .object entries =>
    PropertyOption.mk
      <$> Checked.required "id" Json.checkText entries
      <*> Checked.required "name" Json.checkText entries
      <*> Checked.optional "color" "default" Json.checkText entries
  | _ => .fault .notObject

end PropertyOption

namespace Property

/-- The member with the options, if the property has a place for them. -/
def optionsMember (p : Property) : List (Text × Json) :=
  match p.options with
  | some options => [("options", .array (options.map PropertyOption.toJson))]
  | none => []

def toJson (p : Property) : Json :=
  .record (("id", .string p.id) :: ("type", .string p.type) :: ("name", .string p.name) ::
    p.optionsMember)

def checkOptions : Json → Checked (Option (List PropertyOption))
  | .null => .valid none
  | .array items => some <$> Checked.items PropertyOption.check items
  | _ => .fault .notOptions

def check : Json → Checked Property
  | .object entries =>
    Property.mk
      <$> Checked.required "id" Json.checkText entries
      <*> Checked.required "type" Json.checkText entries
      <*> Checked.required "name" Json.checkText entries
      <*> Checked.optional "options" none checkOptions entries
  | _ => .fault .notObject

end Property

namespace Timestamp

/-- A stored moment: a text, or a number of Unix time. -/
def check : Json → Checked Moment
  | .string t =>
    if !t.isScalar then .fault .notEncodable
    else
      match read t with
      | .ok m => .valid m
      | .error .unreadable => .fault .unreadableMoment
      | .error .outOfRange => .fault .momentOutOfRange
  | .int n =>
    if (Magnitude.ofDecimal? n.natAbs 0).isNone then .fault .notMoment
    else
      match ofWhole n with
      | .ok m => .valid m
      | .error _ => .fault .momentOutOfRange
  | .float x =>
    match ofBinary64 x with
    | .ok m => .valid m
    | .error _ => .fault .momentOutOfRange
  | _ => .fault .notMoment

end Timestamp

namespace DatabaseSchema

/-- A key as it is shown in documents and issues, with every lone surrogate replaced by three
replacement characters, one for each of its bytes. -/
def replacedSurrogates (key : Text) : Text :=
  key.flatMap fun
    | .scalar c => [.scalar c]
    | .surrogate _ => List.replicate 3 (.scalar '\uFFFD')

def toJson (s : DatabaseSchema) : Json :=
  .record [("id", .string s.id), ("title", .string s.title),
    ("properties",
      .record (s.properties.entries.map fun (key, p) => (replacedSurrogates key, p.toJson))),
    ("lastUpdated", .string (Timestamp.write s.lastUpdated))]

def checkProperties : Json → Checked (Table Property)
  | .object entries =>
    Table.ofList <$>
      Checked.list (entries.map fun (key, v) =>
        Prod.mk key <$> (Property.check v).within (.key (replacedSurrogates key)))
  | _ => .fault .notTable

def check : Json → Checked DatabaseSchema
  | .object entries =>
    DatabaseSchema.mk
      <$> Checked.required "id" Json.checkText entries
      <*> Checked.required "title" Json.checkText entries
      <*> Checked.optional "properties" .empty checkProperties entries
      <*> Checked.either "lastUpdated" "last_updated" Timestamp.check entries
  | _ => .fault .notObject

end DatabaseSchema

namespace Snapshot

def toJson (s : Snapshot) : Json :=
  .record (s.entries.map fun (name, schema) => (name, schema.toJson))

/-- The schemas of a document's members, up to the first that is not well formed. -/
def checkEntries : List (Text × Json) → Except SnapshotError (List (Text × DatabaseSchema))
  | [] => .ok []
  | (name, v) :: entries =>
    match DatabaseSchema.check v with
    | .valid schema => (checkEntries entries).map ((name, schema) :: ·)
    | .invalid issues => .error (.invalid issues)

def ofJson : Json → Except SnapshotError Snapshot
  | .object entries => (checkEntries entries).map Table.ofList
  | _ => .error .notObject

end Snapshot

end SchemaQuery
