import SchemaQuery.Issue
import SchemaQuery.Json.Reader
import SchemaQuery.Request
import SchemaQuery.Text.Blank

/-!
# Reading query requests

A request is a JSON document, perhaps inside of a code fence. Its texts are stripped of white space
and must then not be empty, and no member may be there that a request does not have.
-/

namespace SchemaQuery

inductive RequestError where
  | notJson
  /-- A whole number has more digits than are accepted. -/
  | tooLong (digits : Nat)
  | invalid (issues : List Issue)

namespace Request

/-- A text that can be encoded and is not blank, stripped. -/
def checkName : Json → Checked Text
  | .string t =>
    if !t.isScalar then .fault .notEncodable
    else if t.stripped.isEmpty then .fault .emptyText
    else .valid t.stripped
  | _ => .fault .notText

/-- An object whose keys can all be encoded; one that cannot spoils the whole object. -/
def checkObject {α : Type} (check : Entries Json → Checked α) : Json → Checked α
  | .object entries =>
    if (Entries.keys entries).all Text.isScalar then check entries else .fault .notEncodable
  | _ => .fault .notObject

/-- The key under which a filter's type stands: it has a short spelling and a long one. -/
def typeKey (entries : Entries Json) : Text :=
  if (entries.find? "filterType").isNone ∧ (entries.find? "filter_type").isSome then "filter_type"
  else "filterType"

def checkFilter : Json → Checked FilterSpec :=
  checkObject fun entries =>
    FilterSpec.mk
      <$> Checked.required "property" checkName entries
      <*> Checked.either "filterType" "filter_type" checkName entries
      <*> Checked.required "operator" checkName entries
      <*> Checked.optional "value" .null .valid entries
      <* Checked.noOthers ["property", typeKey entries, "operator", "value"] entries

def checkDirection : Json → Checked SortDirection
  | .string t =>
    if !t.isScalar then .fault .notEncodable
    else
      match SortDirection.ofName? t with
      | some d => .valid d
      | none => .fault .notOneOf
  | _ => .fault .notOneOf

def checkSort : Json → Checked SortSpec :=
  checkObject fun entries =>
    SortSpec.mk
      <$> Checked.required "property" checkName entries
      <*> Checked.optional "direction" .ascending checkDirection entries
      <* Checked.noOthers ["property", "direction"] entries

def checkFilters : Json → Checked (List FilterSpec)
  | .array items => Checked.items checkFilter items
  | _ => .fault .notList

def checkOptionalSort : Json → Checked (Option SortSpec)
  | .null => .valid none
  | v => some <$> checkSort v

def check : Json → Checked QueryRequest :=
  checkObject fun entries =>
    QueryRequest.mk
      <$> Checked.required "database" checkName entries
      <*> Checked.optional "filters" [] checkFilters entries
      <*> Checked.optional "sort" none checkOptionalSort entries
      <* Checked.noOthers ["database", "filters", "sort"] entries

/-- Takes a text out of a code fence: back ticks at both ends, the word `json` behind the opening
ones, and blanks. -/
def unfenced (t : Text) : Text :=
  let t := t.strippedBlanks
  let tick : CodePoint := .scalar '\x60'
  if t.startsWith [tick, tick, tick] then
    (Text.without "json" (t.trim (· = tick))).strippedBlanks
  else t

def read (t : Text) : Except RequestError QueryRequest :=
  match Json.read (unfenced t) with
  | .error .malformed => .error .notJson
  | .error (.tooLong digits) => .error (.tooLong digits)
  | .ok document =>
    match check document with
    | .valid r => .ok r
    | .invalid issues => .error (.invalid issues)

end Request

namespace RequestError

def message : RequestError → Text
  | notJson => "Query request is not valid JSON"
  | tooLong digits => JsonError.tooLongMessage digits
  | invalid issues => "Invalid query request: " ++ reportIssues "QueryRequest" issues

end RequestError

end SchemaQuery
