import SchemaQuery.Binary64.Shortest
import SchemaQuery.Json
import SchemaQuery.Text.Quoted

/-!
# Values in running text

A value that stands where a text was expected is shown in words: a text as it is, and anything else
the way it would be quoted in a message.
-/

namespace SchemaQuery.Json

def shownSpecials : SpecialSpelling := ⟨"nan", "inf"⟩

mutual

def quoted : Json → Text
  | null => "None"
  | bool true => "True"
  | bool false => "False"
  | int n => Text.ofInt n
  | float x => x.write shownSpecials
  | string t => t.quoted
  | array items => "[" ++ Text.join ", " (quotedItems items) ++ "]"
  | object entries => "\x7b" ++ Text.join ", " (quotedEntries entries) ++ "\x7d"

def quotedItems : List Json → List Text
  | [] => []
  | v :: items => v.quoted :: quotedItems items

def quotedEntries : List (Text × Json) → List Text
  | [] => []
  | (key, v) :: entries => (key.quoted ++ ": " ++ v.quoted) :: quotedEntries entries

end

def shown : Json → Text
  | string t => t
  | v => v.quoted

end SchemaQuery.Json
