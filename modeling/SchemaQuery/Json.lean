import SchemaQuery.Binary64
import SchemaQuery.Table

/-!
# JSON values

Whole numbers are unbounded integers, all other numbers are doubles, among them the three that JSON
has no standard spelling for. Objects keep the order of their keys; a reader leaves no key twice.
-/

namespace SchemaQuery

inductive Json where
  | null
  | bool (b : Bool)
  | int (n : Int)
  | float (x : Binary64)
  | string (t : Text)
  | array (items : List Json)
  | object (entries : List (Text × Json))

namespace Json

instance : Inhabited Json := ⟨null⟩

/-- Null, false, zero and whatever is empty carry no information and count as absent. -/
def isAbsent : Json → Bool
  | null => true
  | bool b => !b
  | int n => n == 0
  | float x => x.isZero
  | string t => t.isEmpty
  | array items => items.isEmpty
  | object entries => entries.isEmpty

def member? (key : Text) : Json → Option Json
  | object entries => Entries.find? key entries
  | _ => none

/-- The object that a row of writes leaves behind. -/
def record (writes : List (Text × Json)) : Json := object (Entries.ofList writes)

end Json

end SchemaQuery
