import SchemaQuery.Binary64
import SchemaQuery.Text.Blank
import SchemaQuery.Text.Numeral

/-!
# Reading doubles that a user types

A sign may come first. Then there is a numeral with digits before or behind a decimal point, or
`inf`, `infinity` or `nan` in any case. White space around the number is passed over, and so are
single underscores between any two characters of it, but not both.
-/

namespace SchemaQuery.Text

/-- Whether a text is a word, up to the case of ASCII letters. -/
def isWord (word : String) (t : Text) : Bool :=
  t.map (fun
    | .scalar c => .scalar c.toLower
    | c => c) = ofString word

def underscore : CodePoint := .scalar '_'

/-- A text without its underscores; none when one stands at an end or beside another. -/
def ungrouped? (t : Text) : Option Text :=
  if t.head? = some underscore ∨ t.getLast? = some underscore ∨
      includes [underscore, underscore] t then
    none
  else some (t.filter (· ≠ underscore))

end SchemaQuery.Text

namespace SchemaQuery.Binary64

/-- The number in an unsigned numeral. -/
def ofNumeral? (negative : Bool) (t : Text) : Option Binary64 :=
  let (whole, rest) := Text.spanDigits t
  let (decimals, rest) :=
    match Text.after? "." rest with
    | some rest => Text.spanDigits rest
    | none => ([], rest)
  if whole.isEmpty ∧ decimals.isEmpty then none
  else
    let number (scale : Int) : Binary64 :=
      ofDecimal negative (Text.number (whole ++ decimals)) (scale - decimals.length)
    match rest, Text.exponent? rest with
    | [], _ => some (number 0)
    | _, some (scale, []) => some (number scale)
    | _, _ => none

def readExactly? (t : Text) : Option Binary64 :=
  let (negative, t) := Text.sign t
  if t.isWord "inf" || t.isWord "infinity" then some (infinity negative)
  else if t.isWord "nan" then some nan
  else ofNumeral? negative t

def read? (t : Text) : Option Binary64 :=
  readExactly? t.stripped <|> (Text.ungrouped? t).bind readExactly?

end SchemaQuery.Binary64
