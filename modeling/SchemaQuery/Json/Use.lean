import SchemaQuery.Json

/-!
# Using values from outside

Documents of the external service are not checked as a whole. Their parts are used as objects or
gone through item by item, and a part of another kind is a misuse at that place.
-/

namespace SchemaQuery

/-- A value was used as what it is not. -/
inductive Misuse where
  /-- It has no members. -/
  | notObject
  /-- It has no items, cannot be searched, or names no type. -/
  | unusable
  deriving DecidableEq

namespace Json

/-- The members of an object, of which an absent value has none. -/
def members (v : Json) : Except Misuse (List (Text × Json)) :=
  if v.isAbsent then .ok []
  else
    match v with
    | object entries => .ok entries
    | _ => .error .notObject

/-- The items that a value is gone through by: those of a list, the keys of an object, the
characters of a text. -/
def items : Json → Except Misuse (List Json)
  | array items => .ok items
  | object entries => .ok (entries.map fun (key, _) => string key)
  | string t => .ok (t.map fun c => string [c])
  | _ => .error .unusable

/-- The items of a value, of which an absent one has none. -/
def presentItems (v : Json) : Except Misuse (List Json) :=
  if v.isAbsent then .ok [] else v.items

/-- Whether a text is found in a value: as a key, an item or a part. -/
def holds (t : Text) : Json → Except Misuse Bool
  | object entries => .ok (Entries.find? t entries).isSome
  | array items =>
    .ok (items.any fun
      | string s => s = t
      | _ => false)
  | string s => .ok (Text.includes t s)
  | _ => .error .unusable

/-- The member of an object, null when it is not there. -/
def get (key : Text) (entries : List (Text × Json)) : Json := (Entries.find? key entries).getD null

end Json

end SchemaQuery
