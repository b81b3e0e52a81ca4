import SchemaQuery.Binary64
import SchemaQuery.Text

/-!
# The shortest decimal text of a double

A double is written with the fewest significant digits that read back as the same double, and of
several such decimals the nearest one. Each grid of one to seventeen digits offers two candidates,
the neighbours of the exact value; a candidate counts when it reads back. The exact decimal
expansion, which always reads back, stands behind them.

Exponents from -4 to 15 are written positionally with at least one decimal, others with an `e`, a
sign and two digits or more.
-/

namespace SchemaQuery

/-- The number `digits · 10 ^ exponent`. -/
structure Decimal where
  digits : Nat
  exponent : Int
  deriving DecidableEq

namespace Magnitude

variable (m : Magnitude)

/-- The exact decimal expansion: every unit has 1074 decimals. -/
def expansion : Decimal := ⟨m.units * 5 ^ 1074, -1074⟩

/-- The two neighbours with `n` digits of a number whose expansion has `length` digits, the nearer
one first and the even one of two equally near. -/
def neighbours (expanded length n : Nat) : List Decimal :=
  let grid := 10 ^ (length - n)
  let below : Decimal := ⟨expanded / grid, (length - n : Nat) - 1074⟩
  let above : Decimal := ⟨expanded / grid + 1, (length - n : Nat) - 1074⟩
  let rest := expanded % grid
  if 2 * rest < grid ∨ (2 * rest = grid ∧ below.digits % 2 = 0) then [below, above]
  else [above, below]

def readsBack (d : Decimal) : Bool := ofDecimal? d.digits d.exponent = some m

/-- The decimal with the fewest digits that reads back. -/
def shortest : Decimal :=
  let expanded := m.expansion.digits
  let length := (Nat.toDigits 10 expanded).length
  let candidates := (List.range 17).flatMap fun n => neighbours expanded length (n + 1)
  (candidates.find? m.readsBack).getD m.expansion

end Magnitude

namespace Decimal

/-- The digits without zeros at the end, and the position of the decimal point among them. -/
def significant (d : Decimal) : Text × Int :=
  let digits := Text.ofNat d.digits
  (digits.trimRight (· = .scalar '0'), d.exponent + digits.length)

def zeros (n : Nat) : Text := List.replicate n (.scalar '0')

/-- Positional for exponents from -4 to 15. -/
def write (d : Decimal) : Text :=
  let (digits, point) := d.significant
  if d.digits = 0 then "0.0"
  else if -3 ≤ point ∧ point ≤ 16 then
    if point ≤ 0 then "0." ++ zeros (-point).toNat ++ digits
    else if digits.length ≤ point then digits ++ zeros (point.toNat - digits.length) ++ ".0"
    else digits.take point.toNat ++ "." ++ digits.drop point.toNat
  else
    let exponent := point - 1
    let fraction : Text := if digits.length ≤ 1 then [] else .scalar '.' :: digits.drop 1
    let sign : Text := if exponent < 0 then "-" else "+"
    digits.take 1 ++ fraction ++ "e" ++ sign ++ Text.padded 2 exponent.natAbs

end Decimal

/-- How the numbers that are no decimals are spelled. -/
structure SpecialSpelling where
  nan : Text
  infinity : Text

namespace Binary64

def write (spelling : SpecialSpelling) : Binary64 → Text
  | nan => spelling.nan
  | infinity negative => (if negative then ("-" : Text) else []) ++ spelling.infinity
  | finite negative m => (if negative then ("-" : Text) else []) ++ m.shortest.write

end Binary64

end SchemaQuery
