import SchemaQuery.Binary64.Shortest
import SchemaQuery.Proofs.Binary64.Nearest
import SchemaQuery.Proofs.Text.Numeral

/-!
# Decimal texts of magnitudes

The shortest decimal of a magnitude reads back as it: either it was chosen because it does, or it is
the exact expansion.
-/

namespace SchemaQuery

namespace Magnitude

theorem ofDecimal?_expanded (m : Magnitude) {k : Nat} (hone : one = 2 ^ k) :
    ofDecimal? (m.units * 5 ^ k) (-k) = some m := by
  have hpos : (-(k : Int)).toNat = 0 := by omega
  have hneg : (- -(k : Int)).toNat = k := by omega
  have hexpanded := nearestUnits?_mul_mul (k := 10 ^ k) (Nat.pow_pos (by decide)) m.units 1
  rw [Nat.one_mul, nearestUnits?_units] at hexpanded
  rw [ofDecimal?_eq, hpos, hneg, Nat.pow_zero, Nat.mul_one, nearest?, hone, Nat.mul_assoc,
    ← Nat.mul_pow]
  exact hexpanded

theorem readsBack_expansion (m : Magnitude) : m.readsBack m.expansion = true := by
  obtain ⟨k, hk, hone⟩ := exists_one_eq
  have hexpansion : m.expansion = ⟨m.units * 5 ^ k, -k⟩ := by
    rw [hk, expansion]
    rfl
  rw [readsBack, decide_eq_true_iff, hexpansion]
  exact m.ofDecimal?_expanded hone

theorem readsBack_shortest (m : Magnitude) : m.readsBack m.shortest = true := by
  simp only [shortest]
  generalize (List.range 17).flatMap _ = candidates
  cases hfind : candidates.find? m.readsBack with
  | none => exact m.readsBack_expansion
  | some d => exact List.find?_some hfind

theorem ofDecimal?_shortest (m : Magnitude) :
    ofDecimal? m.shortest.digits m.shortest.exponent = some m :=
  of_decide_eq_true m.readsBack_shortest

end Magnitude

end SchemaQuery
