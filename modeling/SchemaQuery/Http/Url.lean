import SchemaQuery.Text.Blank
import SchemaQuery.Text.Utf8

/-!
# Addresses

A text becomes a segment of an address by escaping every byte of its UTF-8 form but ASCII letters,
digits and `_.-~`. An address needs a scheme: a name with a colon behind it, before any slash.
-/

namespace SchemaQuery.Http

def isUnreserved (b : UInt8) : Bool :=
  let c := Char.ofNat b.toNat
  b < 0x80 && (c.isAlphanum || c = '_' || c = '.' || c = '-' || c = '~')

def hexDigit (n : Nat) : Char := if n < 10 then Char.ofNat (48 + n) else Char.ofNat (55 + n)

/-- A byte of a segment. -/
def escapeByte (b : UInt8) : Text :=
  if isUnreserved b then [.scalar (Char.ofNat b.toNat)]
  else
    [.scalar '%', .scalar (hexDigit (b.toNat / 16)), .scalar (hexDigit (b.toNat % 16))]

/-- A text as one segment; none when it has no UTF-8 form. -/
def segment? (t : Text) : Option Text := (Text.utf8? t).map fun bytes => bytes.flatMap escapeByte

/-- An address without the blanks, the angle brackets and the word `URL:` that may stand around
it. -/
def unwrapped (t : Text) : Text :=
  let t := t.strippedBlanks
  let inner : Text := (t.drop 1).dropLast
  let t :=
    if t.head? = some (.scalar '<') ∧ t.getLast? = some (.scalar '>') then inner.strippedBlanks
    else t
  match Text.after? "URL:" t with
  | some rest => rest.strippedBlanks
  | none => t

/-- An address without its fragment, which begins with the last number sign. -/
def withoutFragment (t : Text) : Text :=
  if t.contains (.scalar '#') then
    ((t.reverse.dropWhile (· ≠ .scalar '#')).drop 1).reverse
  else t

def hasScheme (t : Text) : Bool :=
  let isMark (c : CodePoint) : Bool := c = .scalar '/' || c = .scalar ':'
  let t := withoutFragment t
  let name := t.takeWhile (!isMark ·)
  !name.isEmpty && (t.dropWhile (!isMark ·)).head? = some (.scalar ':')

end SchemaQuery.Http
