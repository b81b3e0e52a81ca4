import SchemaQuery.Text.Printable

/-!
# Quoted text in messages

Messages show a text between quote marks: single ones, unless the text holds a single quote and no
double one. A backslash and the mark itself are escaped, line breaks and tabs have short escapes,
and any other unprintable code point is given by its number in two, four or eight digits.
-/

namespace SchemaQuery.Text

def quoteMark (t : Text) : Char :=
  if t.contains (.scalar '\x27') && !t.contains (.scalar '"') then '"' else '\x27'

/-- How one code point is shown between two marks. -/
def quotedPoint (mark : Char) (c : CodePoint) : Text :=
  if c = .scalar mark ∨ c = .scalar '\\' then [.scalar '\\', c]
  else if c = .scalar '\n' then "\\n"
  else if c = .scalar '\r' then "\\r"
  else if c = .scalar '\t' then "\\t"
  else if c.isPrintable then [c]
  else if c.value < 0x100 then "\\x" ++ hexadecimal 2 c.value
  else if c.value < 0x10000 then "\\u" ++ hexadecimal 4 c.value
  else "\\U" ++ hexadecimal 8 c.value

def quoted (t : Text) : Text :=
  let mark := quoteMark t
  .scalar mark :: t.flatMap (quotedPoint mark) ++ [.scalar mark]

end SchemaQuery.Text
