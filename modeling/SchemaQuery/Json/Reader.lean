import SchemaQuery.Json.Token

/-!
# Reading JSON

A pushdown automaton over tokens. Its stack holds the arrays and objects that are open; a key that
occurs again keeps its first place and takes the later value. Reading stops at the first token that
does not fit, so a number that is too long is only noticed where a value may stand.
-/

namespace SchemaQuery

inductive JsonError where
  | malformed
  /-- A whole number has more digits than are accepted. -/
  | tooLong (digits : Nat)
  deriving DecidableEq

namespace JsonError

/-- A number is refused for its length with the number of its digits. -/
def tooLongMessage (digits : Nat) : Text :=
  List.flatten ["Exceeds the limit (4300 digits) for integer string conversion: value has ",
    Text.ofNat digits,
    " digits; use sys.set_int_max_str_digits() to increase the limit"]

end JsonError

namespace Json

/-- An open array with its items backwards, or an open object with the key whose value is awaited.
-/
inductive Frame where
  | array (items : List Json)
  | object (entries : List (Text × Json)) (key : Text)

/-- What the reader awaits. -/
inductive Reading where
  | value (stack : List Frame)
  | arrayStart (stack : List Frame)
  | objectStart (stack : List Frame)
  | key (entries : List (Text × Json)) (stack : List Frame)
  | colon (entries : List (Text × Json)) (key : Text) (stack : List Frame)
  /-- A value is complete inside of the open arrays and objects. -/
  | after (v : Json) (stack : List Frame)

def startValue (stack : List Frame) : JsonToken → Except JsonError Reading
  | .openArray => .ok (.arrayStart stack)
  | .openObject => .ok (.objectStart stack)
  | .string t => .ok (.after (.string t) stack)
  | .literal v => .ok (.after v stack)
  | .tooLong digits => .error (.tooLong digits)
  | _ => .error .malformed

def readToken : Reading → JsonToken → Except JsonError Reading
  | .value stack, token => startValue stack token
  | .arrayStart stack, .closeArray => .ok (.after (.array []) stack)
  | .arrayStart stack, token => startValue (.array [] :: stack) token
  | .objectStart stack, .closeObject => .ok (.after (.object []) stack)
  | .objectStart stack, .string key => .ok (.colon [] key stack)
  | .key entries stack, .string key => .ok (.colon entries key stack)
  | .colon entries key stack, .colon => .ok (.value (.object entries key :: stack))
  | .after v (.array items :: stack), .comma => .ok (.value (.array (v :: items) :: stack))
  | .after v (.array items :: stack), .closeArray =>
    .ok (.after (.array (v :: items).reverse) stack)
  | .after v (.object entries key :: stack), .comma =>
    .ok (.key (Entries.insert key v entries) stack)
  | .after v (.object entries key :: stack), .closeObject =>
    .ok (.after (.object (Entries.insert key v entries)) stack)
  | _, _ => .error .malformed

def ofTokens (tokens : List JsonToken) : Except JsonError Json := do
  match ← tokens.foldlM readToken (.value []) with
  | .after v [] => return v
  | _ => throw .malformed

def read (t : Text) : Except JsonError Json := ofTokens (JsonToken.ofText t)

end Json

end SchemaQuery
