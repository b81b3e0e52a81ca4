import SchemaQuery.Text

/-!
# Parts of a numeral

A numeral is read from left to right, part by part: a sign, digits, and the power of ten that it is
multiplied by.
-/

namespace SchemaQuery.Text

/-- Whether there is a minus sign in front, and what follows a sign. -/
def sign : Text → Bool × Text
  | .scalar '-' :: t => (true, t)
  | .scalar '+' :: t => (false, t)
  | t => (false, t)

/-- An `e`, perhaps a sign, and digits. -/
def exponent? : Text → Option (Int × Text)
  | .scalar c :: t =>
    if c = 'e' ∨ c = 'E' then
      let (negative, t) := sign t
      match spanDigits t with
      | ([], _) => none
      | (digits, rest) =>
        let n : Int := number digits
        some (if negative then -n else n, rest)
    else none
  | _ => none

end SchemaQuery.Text
