import SchemaQuery.Binary64

/-!
# Nearest magnitudes

Which magnitude is nearest to a fraction does not depend on how the fraction is expanded, and a
magnitude is nearest to itself. So a decimal number is read by its value alone: trailing zeros of
its digits may be moved into the exponent, and the exponents that are decided without raising ten to
them are decided as if it had been.
-/

namespace SchemaQuery

theorem roundedQuotient_mul_mul {k : Nat} (hk : 0 < k) (n d : Nat) :
    roundedQuotient (n * k) (d * k) = roundedQuotient n d := by
  have hdiv : n * k / (d * k) = n / d := Nat.mul_div_mul_right n d hk
  have hmod : n * k % (d * k) = n % d * k := Nat.mul_mod_mul_right k n d
  have hbelow : 2 * (n % d * k) < d * k ↔ 2 * (n % d) < d := by
    rw [← Nat.mul_assoc]
    exact Nat.mul_lt_mul_right hk
  have habove : d * k < 2 * (n % d * k) ↔ d < 2 * (n % d) := by
    rw [← Nat.mul_assoc]
    exact Nat.mul_lt_mul_right hk
  simp only [roundedQuotient, hdiv, hmod, hbelow, habove]

theorem roundedQuotient_eq_zero {n d : Nat} (h : 2 * n < d) : roundedQuotient n d = 0 := by
  have hdiv : n / d = 0 := Nat.div_eq_of_lt (by omega)
  have hmod : n % d = n := Nat.mod_eq_of_lt (by omega)
  simp only [roundedQuotient, hdiv, hmod, if_pos h]

namespace Magnitude

theorem scaleOf_mul_mul {k : Nat} (hk : 0 < k) (u d : Nat) :
    scaleOf (u * k) (d * k) = scaleOf u d := by
  rw [scaleOf, scaleOf, Nat.mul_div_mul_right u d hk]

/-- An expanded fraction has the same nearest magnitude. -/
theorem nearestUnits?_mul_mul {k : Nat} (hk : 0 < k) (u d : Nat) :
    nearestUnits? (u * k) (d * k) = nearestUnits? u d := by
  have hquotient : roundedQuotient (u * k) (d * k * 2 ^ scaleOf u d) =
      roundedQuotient u (d * 2 ^ scaleOf u d) := by
    rw [Nat.mul_right_comm, roundedQuotient_mul_mul hk]
  simp only [nearestUnits?, scaleOf_mul_mul hk, hquotient]

theorem log2_units_of_scale {m : Magnitude} (h : m.scale ≠ 0) : m.units.log2 = 52 + m.scale := by
  have hlow := m.normal.resolve_left h
  have hpos : m.units ≠ 0 := by
    have := Nat.two_pow_pos m.scale
    simp only [units, ne_eq, Nat.mul_eq_zero, not_or]
    omega
  rw [Nat.log2_eq_iff hpos, units]
  constructor
  · rw [Nat.pow_add]
    exact Nat.mul_le_mul_right _ hlow
  · rw [show 52 + m.scale + 1 = 53 + m.scale by omega, Nat.pow_add]
    exact Nat.mul_lt_mul_of_pos_right m.significand_lt (Nat.two_pow_pos _)

theorem scaleOf_units (m : Magnitude) : scaleOf m.units 1 = m.scale := by
  rw [scaleOf, Nat.div_one]
  by_cases h : m.scale = 0
  · have hlt : m.units < 2 ^ 53 := by
      rw [units, h, Nat.pow_zero, Nat.mul_one]
      exact m.significand_lt
    have hlog : m.units.log2 < 53 := by
      by_cases hzero : m.units = 0
      · rw [hzero]
        decide
      · exact (Nat.log2_lt hzero).2 hlt
    omega
  · rw [log2_units_of_scale h]
    omega

theorem nearestUnits?_units (m : Magnitude) : nearestUnits? m.units 1 = some m := by
  have hsignificand : roundedQuotient m.units (1 * 2 ^ m.scale) = m.significand := by
    rw [Nat.one_mul, units, roundedQuotient_mul (Nat.two_pow_pos _)]
  simp only [nearestUnits?, scaleOf_units, hsignificand, m.significand_lt, m.scale_le, dite_true]

/-! ### Decimals -/

theorem nearest?_congr {n d n' d' : Nat} (hd : 0 < d) (hd' : 0 < d') (h : n * d' = n' * d) :
    nearest? n d = nearest? n' d' := by
  calc nearest? n d
      = nearestUnits? (n * one * d') (d * d') := (nearestUnits?_mul_mul hd' _ _).symm
    _ = nearestUnits? (n' * one * d) (d' * d) := by
      rw [Nat.mul_right_comm, h, Nat.mul_right_comm, Nat.mul_comm d d']
    _ = nearest? n' d' := nearestUnits?_mul_mul hd _ _

theorem nearestUnits?_eq_none {u d n : Nat} (hn : 2098 ≤ n) (h : 2 ^ n ≤ u / d) :
    nearestUnits? u d = none := by
  have hne : u / d ≠ 0 := Nat.ne_of_gt (Nat.lt_of_lt_of_le (Nat.two_pow_pos n) h)
  have hlog := (Nat.le_log2 hne).2 h
  have hscale : 2045 < scaleOf u d := by
    unfold scaleOf
    omega
  have hnext : ¬ scaleOf u d + 1 ≤ 2045 := by omega
  simp only [nearestUnits?, Nat.not_le.2 hscale, hnext, dite_false, dite_eq_ite, ite_self]

theorem nearestUnits?_eq_zero {u d : Nat} (h : 2 * u < d) : nearestUnits? u d = some zero := by
  have hscale : scaleOf u d = 0 := by
    rw [scaleOf, Nat.div_eq_of_lt (by omega)]
    rfl
  have hquotient : roundedQuotient u (d * 2 ^ 0) = 0 := by
    rw [Nat.pow_zero, Nat.mul_one]
    exact roundedQuotient_eq_zero h
  simp only [nearestUnits?, hscale, hquotient]
  rfl

theorem two_pow_mul_le_ten_pow (e : Nat) : 2 ^ (3 * e) ≤ 10 ^ e := by
  rw [Nat.pow_mul]
  exact Nat.pow_le_pow_left (by decide) e

theorem exists_one_eq : ∃ k, k = 1074 ∧ one = 2 ^ k := ⟨1074, rfl, by rw [one]⟩

/-- Numbers from `10 ^ 401` on are too large for any magnitude. -/
theorem nearest?_eq_none {digits e : Nat} (hdigits : digits ≠ 0) (he : 400 < e) :
    nearest? (digits * 10 ^ e) 1 = none := by
  obtain ⟨k, hk, hone⟩ := exists_one_eq
  apply nearestUnits?_eq_none (n := 3 * e + k) (by omega)
  rw [Nat.div_one, Nat.pow_add, hone]
  exact Nat.mul_le_mul_right _ (Nat.le_trans (two_pow_mul_le_ten_pow e)
    (Nat.le_mul_of_pos_left _ (Nat.pos_of_ne_zero hdigits)))

/-- Numbers below `2 ^ -1075` are nearest to zero. -/
theorem nearest?_eq_zero {digits e : Nat} (he : digits.log2 + 400 < e) :
    nearest? digits (10 ^ (e + 1)) = some zero := by
  obtain ⟨k, hk, hone⟩ := exists_one_eq
  apply nearestUnits?_eq_zero
  have hdigits : digits < 2 ^ (digits.log2 + 1) := Nat.lt_log2_self
  calc 2 * (digits * one)
      < 2 * (2 ^ (digits.log2 + 1) * 2 ^ k) := by
        rw [hone]
        exact Nat.mul_lt_mul_of_pos_left (Nat.mul_lt_mul_of_pos_right hdigits (Nat.two_pow_pos k))
          (by decide)
    _ = 2 ^ (digits.log2 + 1 + k + 1) := by
        rw [← Nat.pow_add, Nat.pow_succ _ (digits.log2 + 1 + k), Nat.mul_comm]
    _ ≤ 2 ^ (3 * (e + 1)) := Nat.pow_le_pow_right (by decide) (by omega)
    _ ≤ 10 ^ (e + 1) := two_pow_mul_le_ten_pow (e + 1)

theorem nearest?_zero {d : Nat} (hd : 0 < d) : nearest? 0 d = some zero :=
  nearestUnits?_eq_zero (by omega)

/-- A decimal number is read as what is nearest to its value. -/
theorem ofDecimal?_eq (digits : Nat) (exponent : Int) :
    ofDecimal? digits exponent =
      nearest? (digits * 10 ^ exponent.toNat) (10 ^ (-exponent).toNat) := by
  unfold ofDecimal?
  split
  · rename_i hzero
    rw [hzero, Nat.zero_mul, nearest?_zero (Nat.pow_pos (by decide))]
  rename_i hdigits
  cases exponent with
  | ofNat e =>
    have hpos : (Int.ofNat e).toNat = e := rfl
    have hneg : (-Int.ofNat e).toNat = 0 := by simp
    simp only [hpos, hneg, Nat.pow_zero]
    split
    · rename_i he
      rw [nearest?_eq_none hdigits he]
    · rfl
  | negSucc e =>
    have hpos : (Int.negSucc e).toNat = 0 := rfl
    have hneg : (-Int.negSucc e).toNat = e + 1 := rfl
    simp only [hpos, hneg, Nat.pow_zero, Nat.mul_one]
    split
    · rename_i he
      rw [nearest?_eq_zero he]
    · rfl

/-- Zeros at the end of the digits count as much in the exponent. -/
theorem ofDecimal?_mul_pow (digits zeros : Nat) (exponent : Int) :
    ofDecimal? (digits * 10 ^ zeros) exponent = ofDecimal? digits (exponent + zeros) := by
  rw [ofDecimal?_eq, ofDecimal?_eq]
  refine nearest?_congr (Nat.pow_pos (by decide)) (Nat.pow_pos (by decide)) ?_
  have hexponents : zeros + exponent.toNat + (-(exponent + zeros)).toNat =
      (exponent + zeros).toNat + (-exponent).toNat := by omega
  rw [Nat.mul_assoc digits, ← Nat.pow_add, Nat.mul_assoc, ← Nat.pow_add, hexponents, Nat.pow_add,
    Nat.mul_assoc]

end Magnitude

end SchemaQuery
