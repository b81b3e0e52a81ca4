import SchemaQuery.Request
import SchemaQuery.Schema
import SchemaQuery.Text.Quoted

/-!
# Checking requests against a schema

A filter fits a schema if its property exists, if its filter type applies to the type of that
property, and if a text that an enumerated property is compared with is the name of an option. A
property without options takes any text. The order must go by a property that exists.
-/

namespace SchemaQuery

inductive FitError where
  | unknownProperty (property title : Text)
  | unsupportedType (filterType : Text)
  | otherType (filterType property propertyType : Text)
  | noOption (value property : Text) (options : List Text)
  | unknownSort (property title : Text)
  deriving DecidableEq

namespace FitError

def message : FitError → Text
  | unknownProperty property title =>
    List.flatten ["Unknown property ", property.quoted, " in ", title]
  | unsupportedType filterType => "Unsupported filter type " ++ filterType.quoted
  | otherType filterType property propertyType =>
    List.flatten ["Filter type ", filterType.quoted, " does not apply to ", property.quoted, " (",
      propertyType, ")"]
  | noOption value property options =>
    List.flatten [value.quoted, " is not an option of ", property.quoted, ": ",
      Text.join ", " options]
  | unknownSort property title =>
    List.flatten ["Unknown sort property ", property.quoted, " in ", title]

end FitError

namespace FilterSpec

/-- The property types that hold some running text. -/
def textTypes : List Text := ["title", "rich_text", "url", "email", "phone_number"]

/-- The property types that each filter type applies to. -/
def compatibleTypes : List (Text × List Text) := [
  ("select", ["select"]),
  ("status", ["status"]),
  ("multi_select", ["multi_select"]),
  ("text", textTypes),
  ("rich_text", textTypes),
  ("title", ["title"]),
  ("number", ["number"]),
  ("date", ["date", "created_time", "last_edited_time"]),
  ("checkbox", ["checkbox"]),
  ("people", ["people", "created_by", "last_edited_by"]),
  ("files", ["files"]),
  ("relation", ["relation"]),
  ("formula", ["formula"]),
  ("rollup", ["rollup"])]

def optionOperators : List Text := ["equals", "does_not_equal", "contains", "does_not_contain"]

/-- The text that a filter compares an enumerated property with. -/
def comparedOption? (f : FilterSpec) : Option Text :=
  if optionOperators.contains f.operator then
    match f.value with
    | .string t => some t
    | _ => none
  else none

/-- Checks the option that a filter names, if it names one of a property that has options. -/
def checkOption (f : FilterSpec) (p : Property) : Except FitError Unit :=
  match f.comparedOption? with
  | some t =>
    if p.isEnumerated ∧ p.optionNames ≠ [] ∧ t ∉ p.optionNames then
      .error (.noOption t f.property p.optionNames)
    else .ok ()
  | none => .ok ()

def check (schema : DatabaseSchema) (f : FilterSpec) : Except FitError Unit :=
  match schema.properties.find? f.property with
  | none => .error (.unknownProperty f.property schema.title)
  | some p =>
    match Entries.find? f.filterType compatibleTypes with
    | none => .error (.unsupportedType f.filterType)
    | some types =>
      if p.type ∈ types then f.checkOption p
      else .error (.otherType f.filterType f.property p.type)

end FilterSpec

namespace DatabaseSchema

/-- Checks all filters in their order, then the property to sort by. -/
def checkRequest (schema : DatabaseSchema) (filters : List FilterSpec) (sort : Option SortSpec) :
    Except FitError Unit := do
  filters.forM (FilterSpec.check schema)
  match sort with
  | some s =>
    if schema.properties.contains s.property then return ()
    else throw (.unknownSort s.property schema.title)
  | none => return ()

end DatabaseSchema

end SchemaQuery
