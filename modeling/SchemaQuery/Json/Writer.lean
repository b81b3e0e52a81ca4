import SchemaQuery.Binary64.Shortest
import SchemaQuery.Json

/-!
# Writing JSON

A document is written on one line, or indented with every item on a line of its own. Strings keep
the characters outside of ASCII, or escape them as 16-bit units.
-/

namespace SchemaQuery

/-- Which characters of a string are escaped beside quotes, backslashes and controls. -/
inductive Escaping where
  /-- No others. -/
  | controls
  /-- Everything that is not printable ASCII. -/
  | nonAscii
  deriving DecidableEq

inductive Layout where
  | oneLine
  | indented (width : Nat)

namespace Layout

/-- What stands before the first item of a level and after its last. -/
def lineBreak : Layout → (level : Nat) → Text
  | oneLine, _ => []
  | indented width, level => .scalar '\n' :: List.replicate (width * level) (.scalar ' ')

/-- What stands between two items of a level. -/
def separator : Layout → (level : Nat) → Text
  | oneLine, _ => ", "
  | indented width, level => .scalar ',' :: (indented width).lineBreak level

end Layout

namespace Json

/-- Doubles that are no decimals have names outside of the JSON standard. -/
def specials : SpecialSpelling := ⟨"NaN", "Infinity"⟩

/-- A code point number as an escaped unit, or as two of them. -/
def escapedUnits (n : Nat) : Text :=
  if n < 0x10000 then "\\u" ++ Text.hexadecimal 4 n
  else
    "\\u" ++ Text.hexadecimal 4 (0xD800 + (n - 0x10000) / 1024) ++
      "\\u" ++ Text.hexadecimal 4 (0xDC00 + (n - 0x10000) % 1024)

def writePoint (escaping : Escaping) (c : CodePoint) : Text :=
  match c with
  | .scalar '"' => "\\\""
  | .scalar '\\' => "\\\\"
  | .scalar '\n' => "\\n"
  | .scalar '\r' => "\\r"
  | .scalar '\t' => "\\t"
  | .scalar '\x08' => "\\b"
  | .scalar '\x0c' => "\\f"
  | c =>
    if c.value < 0x20 ∨ (escaping = .nonAscii ∧ 0x7E < c.value) then escapedUnits c.value else [c]

def writeString (escaping : Escaping) (t : Text) : Text :=
  .scalar '"' :: t.flatMap (writePoint escaping) ++ [.scalar '"']

mutual

/-- The text of a document that stands at a level of indentation. -/
def writeAt (escaping : Escaping) (layout : Layout) (level : Nat) : Json → Text
  | null => "null"
  | bool true => "true"
  | bool false => "false"
  | int n => Text.ofInt n
  | float x => x.write specials
  | string t => writeString escaping t
  | array [] => "[]"
  | array items =>
    .scalar '[' :: layout.lineBreak (level + 1) ++
      Text.join (layout.separator (level + 1)) (writeItems escaping layout (level + 1) items) ++
      layout.lineBreak level ++ [.scalar ']']
  | object [] => "\x7b\x7d"
  | object entries =>
    .scalar '\x7b' :: layout.lineBreak (level + 1) ++
      Text.join (layout.separator (level + 1)) (writeEntries escaping layout (level + 1) entries) ++
      layout.lineBreak level ++ [.scalar '\x7d']

def writeItems (escaping : Escaping) (layout : Layout) (level : Nat) : List Json → List Text
  | [] => []
  | v :: items => writeAt escaping layout level v :: writeItems escaping layout level items

def writeEntries (escaping : Escaping) (layout : Layout) (level : Nat) :
    List (Text × Json) → List Text
  | [] => []
  | (key, v) :: entries =>
    (writeString escaping key ++ ": " ++ writeAt escaping layout level v) ::
      writeEntries escaping layout level entries

end

theorem writeItems_eq_map (escaping : Escaping) (layout : Layout) (level : Nat)
    (items : List Json) :
    writeItems escaping layout level items = items.map (writeAt escaping layout level) := by
  induction items with
  | nil => simp [writeItems]
  | cons v items ih => simp [writeItems, ih]

theorem writeEntries_eq_map (escaping : Escaping) (layout : Layout) (level : Nat)
    (entries : List (Text × Json)) :
    writeEntries escaping layout level entries = entries.map fun e =>
      writeString escaping e.1 ++ (": " ++ writeAt escaping layout level e.2) := by
  induction entries with
  | nil => simp [writeEntries]
  | cons e entries ih => simp [writeEntries, ih]

def write (escaping : Escaping) (v : Json) : Text := v.writeAt escaping .oneLine 0

/-- The document with two blanks of indentation for each level, characters kept. -/
def writeIndented (v : Json) : Text := v.writeAt .controls (.indented 2) 0

end Json

end SchemaQuery
