import SchemaQuery.Text

/-!
# Blank code points

`isWhiteSpace` is the Unicode property White_Space. `isBlank` adds the four information separators
U+001C to U+001F, which break words although they do not have the property.
-/

namespace SchemaQuery.CodePoint

/-- Unicode White_Space. -/
def isWhiteSpace (c : CodePoint) : Bool :=
  let n := c.value
  (9 ≤ n && n ≤ 13) || n == 0x20 || n == 0x85 || n == 0xA0 || n == 0x1680 ||
    (0x2000 ≤ n && n ≤ 0x200A) || n == 0x2028 || n == 0x2029 || n == 0x202F || n == 0x205F ||
    n == 0x3000

/-- White_Space or an information separator. -/
def isBlank (c : CodePoint) : Bool := c.isWhiteSpace || (0x1C ≤ c.value && c.value ≤ 0x1F)

end SchemaQuery.CodePoint

namespace SchemaQuery.Text

/-- Strips Unicode White_Space from both ends. -/
def stripped (t : Text) : Text := t.trim CodePoint.isWhiteSpace

/-- Strips blanks, information separators included, from both ends. -/
def strippedBlanks (t : Text) : Text := t.trim CodePoint.isBlank

end SchemaQuery.Text
