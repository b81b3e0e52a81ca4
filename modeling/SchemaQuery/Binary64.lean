import SchemaQuery.Text

/-!
# Binary floating-point numbers of 64 bits

A number with a fraction or an exponent is kept as the nearest double. A finite double is a sign and
a magnitude `significand · 2 ^ scale` in units of the smallest positive double, `2 ^ -1074`, so all
arithmetic here is exact arithmetic on natural numbers. Each magnitude has one representation.
-/

namespace SchemaQuery

/-- The quotient rounded to the nearest natural number, a half going to the even neighbour. -/
def roundedQuotient (n d : Nat) : Nat :=
  let q := n / d
  let r := n % d
  if 2 * r < d then q
  else if d < 2 * r then q + 1
  else if q % 2 = 0 then q
  else q + 1

theorem le_roundedQuotient (n d : Nat) : n / d ≤ roundedQuotient n d := by
  simp only [roundedQuotient]
  split
  · exact Nat.le_refl _
  · split
    · exact Nat.le_succ _
    · split
      · exact Nat.le_refl _
      · exact Nat.le_succ _

theorem roundedQuotient_mul {d : Nat} (h : 0 < d) (n : Nat) : roundedQuotient (n * d) d = n := by
  simp [roundedQuotient, Nat.mul_div_cancel _ h, h]

/-- The absolute value of a finite double. -/
structure Magnitude where
  significand : Nat
  scale : Nat
  significand_lt : significand < 2 ^ 53
  normal : scale = 0 ∨ 2 ^ 52 ≤ significand
  scale_le : scale ≤ 2045
  deriving DecidableEq

namespace Magnitude

/-- The number of units of `2 ^ -1074`. -/
def units (m : Magnitude) : Nat := m.significand * 2 ^ m.scale

def one : Nat := 2 ^ 1074

def zero : Magnitude := ⟨0, 0, by decide, .inl rfl, by decide⟩

instance : Inhabited Magnitude := ⟨zero⟩

def isZero (m : Magnitude) : Bool := m.significand == 0

/-- The exponent of two that makes the quotient of a rounded magnitude fill 53 bits. -/
def scaleOf (units denominator : Nat) : Nat := (units / denominator).log2 - 52

theorem significand_of_scaleOf {u d : Nat} (h : scaleOf u d ≠ 0) :
    2 ^ 52 ≤ roundedQuotient u (d * 2 ^ scaleOf u d) := by
  refine Nat.le_trans ?_ (le_roundedQuotient _ _)
  rw [← Nat.div_div_eq_div_mul, Nat.le_div_iff_mul_le (Nat.two_pow_pos _), ← Nat.pow_add]
  have hlog : 52 + scaleOf u d = (u / d).log2 := by
    unfold scaleOf at *
    omega
  have hne : u / d ≠ 0 := by
    intro h0
    simp [scaleOf, h0] at h
  rw [hlog]
  exact Nat.log2_self_le hne

/-- The magnitude nearest to a quotient of units, a half going to the even significand; none when it
is beyond the largest double. -/
def nearestUnits? (u d : Nat) : Option Magnitude :=
  let scale := scaleOf u d
  let significand := roundedQuotient u (d * 2 ^ scale)
  if hlt : significand < 2 ^ 53 then
    if hle : scale ≤ 2045 then
      some ⟨significand, scale, hlt,
        if h : scale = 0 then .inl h else .inr (significand_of_scaleOf h), hle⟩
    else none
  else if hle : scale + 1 ≤ 2045 then some ⟨2 ^ 52, scale + 1, by decide, .inr (by decide), hle⟩
  else none

/-- A quotient of units rounded to 53 bits, a half going to the even significand. -/
def roundedUnits (u d : Nat) : Nat :=
  roundedQuotient u (d * 2 ^ scaleOf u d) * 2 ^ scaleOf u d

def nearest? (numerator denominator : Nat) : Option Magnitude :=
  nearestUnits? (numerator * one) denominator

/-- The magnitude nearest to `digits · 10 ^ exponent`. Exponents so far out that the number must
overflow or vanish are decided without raising ten to them. -/
def ofDecimal? (digits : Nat) (exponent : Int) : Option Magnitude :=
  if digits = 0 then some zero
  else
    match exponent with
    | .ofNat e => if 400 < e then none else nearest? (digits * 10 ^ e) 1
    | .negSucc e =>
      if digits.log2 + 400 < e then some zero else nearest? digits (10 ^ (e + 1))

end Magnitude

inductive Binary64 where
  | nan
  | infinity (negative : Bool)
  | finite (negative : Bool) (magnitude : Magnitude)
  deriving DecidableEq

namespace Binary64

instance : Inhabited Binary64 := ⟨nan⟩

def ofDecimal (negative : Bool) (digits : Nat) (exponent : Int) : Binary64 :=
  match Magnitude.ofDecimal? digits exponent with
  | some m => finite negative m
  | none => infinity negative

def isZero : Binary64 → Bool
  | finite _ m => m.isZero
  | _ => false

/-- Whether the number is zero, of either sign, or below. NaN is not. -/
def isAtMostZero : Binary64 → Bool
  | nan => false
  | infinity negative => negative
  | finite negative m => negative || m.isZero

/-- The signed number of units of `2 ^ -1074` of a finite double. -/
def units? : Binary64 → Option Int
  | finite negative m => some (if negative then -(m.units : Int) else m.units)
  | _ => none

end Binary64

end SchemaQuery
