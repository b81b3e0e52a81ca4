import Mathlib.Data.List.DropRight
import SchemaQuery.Proofs.Binary64.Shortest

/-!
# Numerals of doubles

A double is written as a numeral: digits, a decimal point with more digits, and an exponent when it
is very large or very small. Wherever the point stands, the numeral denotes the decimal number that
was chosen for the double.
-/

namespace SchemaQuery

/-- Digits before a decimal point: at least one, and no zero in front of others. -/
structure IsWhole (cs : List Char) : Prop where
  ne_nil : cs ≠ []
  isDigit : ∀ c ∈ cs, c.isDigit = true
  leading : cs.length = 1 ∨ cs.head? ≠ some '0'

theorem isWhole_toDigits (n : Nat) : IsWhole (Nat.toDigits 10 n) where
  ne_nil := Nat.toDigits_ne_nil
  isDigit := fun _ => Nat.isDigit_of_mem_toDigits (by decide) (by decide)
  leading := by
    by_cases h : n = 0
    · rw [h]
      exact .inl rfl
    · exact .inr (Text.head?_toDigits h)

namespace IsWhole

variable {cs : List Char}

theorem exists_cons (h : IsWhole cs) : ∃ c ds, cs = c :: ds ∧ c.isDigit = true ∧ c ≠ '-' := by
  obtain ⟨c, ds, rfl⟩ := List.exists_cons_of_ne_nil h.ne_nil
  refine ⟨c, ds, rfl, h.isDigit c List.mem_cons_self, ?_⟩
  rintro rfl
  cases h.isDigit '-' List.mem_cons_self

theorem digitValues_cases (h : IsWhole cs) :
    (∃ d, Text.digitValues cs = [d]) ∨
      ∃ d digits, Text.digitValues cs = (d + 1) :: digits := by
  obtain ⟨c, ds, rfl, hc, -⟩ := h.exists_cons
  rcases h.leading with hone | hzero
  · obtain rfl : ds = [] := List.eq_nil_of_length_eq_zero (by simpa using hone)
    exact .inl ⟨_, rfl⟩
  · have hvalue : c.toNat - '0'.toNat ≠ 0 := by
      intro hvalue
      have hlow := (Char.isDigit_iff_toNat.1 hc).1
      have hsame : c.toNat = '0'.toNat := Nat.le_antisymm (Nat.le_of_sub_eq_zero hvalue) hlow
      exact hzero (congrArg some (Char.toNat_inj.1 hsame))
    obtain ⟨d, hd⟩ := Nat.exists_eq_succ_of_ne_zero hvalue
    exact .inr ⟨d, _, congrArg (· :: _) hd⟩

end IsWhole

/-- A numeral: digits, perhaps a point and more digits, and perhaps an exponent. -/
structure Numeral where
  whole : List Char
  decimals : List Char
  exponent : Option Int

namespace Numeral

def fraction (n : Numeral) : Text :=
  if n.decimals = [] then [] else .scalar '.' :: n.decimals.map .scalar

def power (n : Numeral) : Text :=
  match n.exponent with
  | none => []
  | some e => "e" ++ (if e < 0 then ("-" : Text) else "+") ++ Text.padded 2 e.natAbs

def write (n : Numeral) : Text := n.whole.map .scalar ++ (n.fraction ++ n.power)

def digits (n : Numeral) : Nat := Text.number (Text.digitValues (n.whole ++ n.decimals))

/-- The power of ten that the digits are multiplied by. -/
def scale (n : Numeral) : Int := n.exponent.getD 0 - n.decimals.length

/-- A numeral that a reader takes for a double. -/
structure IsDouble (n : Numeral) : Prop where
  isWhole : IsWhole n.whole
  isDigit : ∀ c ∈ n.decimals, c.isDigit = true
  isDouble : n.decimals ≠ [] ∨ n.exponent.isSome = true

end Numeral

namespace Decimal

variable {d : Decimal}

theorem trimRight_digits (cs : List Char) :
    Text.trimRight (· = .scalar '0') (cs.map .scalar) = (cs.rdropWhile (· = '0')).map .scalar := by
  have hzero : (fun c : CodePoint => decide (c = .scalar '0')) ∘ CodePoint.scalar =
      fun c => decide (c = '0') := by
    funext c
    simp
  rw [Text.trimRight, ← List.map_reverse, List.dropWhile_map, hzero, List.rdropWhile,
    List.map_reverse]

theorem append_zeros_eq (cs : List Char) :
    cs.rdropWhile (· = '0') ++ List.replicate (cs.rtakeWhile (· = '0')).length '0' = cs := by
  have hzeros : cs.rtakeWhile (· = '0') =
      List.replicate (cs.rtakeWhile (· = '0')).length '0' :=
    List.eq_replicate_of_mem fun c hc => by simpa using List.mem_rtakeWhile_imp hc
  rw [← hzeros, List.rdropWhile_append_rtakeWhile]

/-- The digits of a decimal number that is not zero, without the zeros at their end. -/
theorem exists_trimmed (h : d.digits ≠ 0) : ∃ cs zeros,
    (∀ c ∈ cs, c.isDigit = true) ∧ cs ≠ [] ∧ cs.head? ≠ some '0' ∧
      d.significant = (cs.map .scalar, d.exponent + (cs.length + zeros : Nat)) ∧
      d.digits = Text.number (Text.digitValues cs) * 10 ^ zeros := by
  have hwhole := isWhole_toDigits d.digits
  have hhead := Text.head?_toDigits h
  have hnumber := Text.number_toDigits d.digits
  have htrim := trimRight_digits (Nat.toDigits 10 d.digits)
  have hzeros := append_zeros_eq (Nat.toDigits 10 d.digits)
  unfold significant
  rw [Text.ofNat]
  generalize Nat.toDigits 10 d.digits = ds at *
  generalize ds.rdropWhile (· = '0') = cs at *
  generalize (ds.rtakeWhile (· = '0')).length = zeros at *
  subst hzeros
  have hne : cs ≠ [] := by
    rintro rfl
    rw [List.nil_append, Text.number_zeros] at hnumber
    exact h hnumber.symm
  refine ⟨cs, zeros, fun c hc => hwhole.isDigit c (List.mem_append_left _ hc), hne, ?_, ?_, ?_⟩
  · obtain ⟨c, cs, rfl⟩ := List.exists_cons_of_ne_nil hne
    exact hhead
  · simp only [htrim, List.length_map, List.length_append, List.length_replicate]
  · rw [← hnumber, Text.number_append_zeros]

/-- The digits of a numeral are those of a number whose decimal point stands somewhere. -/
structure IsNumeralOf (n : Numeral) (cs : List Char) (point : Int) : Prop where
  isDouble : n.IsDouble
  value : Magnitude.ofDecimal? n.digits n.scale =
    Magnitude.ofDecimal? (Text.number (Text.digitValues cs)) (point - cs.length)

section Shapes

variable {cs : List Char} (hdigit : ∀ c ∈ cs, c.isDigit = true) (hne : cs ≠ [])
  (hhead : cs.head? ≠ some '0')

include hdigit hne in
theorem isNumeralOf_leading (k : Nat) :
    IsNumeralOf ⟨['0'], List.replicate k '0' ++ cs, none⟩ cs (-k) where
  isDouble :=
    { isWhole := ⟨by simp, by simp, .inl rfl⟩
      isDigit := by
        intro c hc
        rcases List.mem_append.1 hc with hzero | hc
        · rw [List.eq_of_mem_replicate hzero]
          rfl
        · exact hdigit c hc
      isDouble := .inl (by simp [hne]) }
  value := by
    have hnumber := Text.number_zeros_append (k + 1) cs
    rw [List.replicate_succ, List.cons_append] at hnumber
    have hscale : (0 : Int) - (List.replicate k '0' ++ cs).length = -k - cs.length := by
      simp
      omega
    rw [Numeral.digits, Numeral.scale]
    simp only [Option.getD_none, List.singleton_append, hnumber, hscale]

include hdigit hne hhead in
theorem isNumeralOf_trailing (k : Nat) :
    IsNumeralOf ⟨cs ++ List.replicate k '0', ['0'], none⟩ cs (cs.length + k) where
  isDouble :=
    { isWhole := by
        refine ⟨by simp [hne], fun c hc => ?_, .inr ?_⟩
        · rcases List.mem_append.1 hc with hc | hzero
          · exact hdigit c hc
          · rw [List.eq_of_mem_replicate hzero]
            rfl
        · obtain ⟨c, ds, rfl⟩ := List.exists_cons_of_ne_nil hne
          exact hhead
      isDigit := by simp
      isDouble := .inl (by simp) }
  value := by
    have hnumber := Text.number_append_zeros cs (k + 1)
    rw [List.replicate_succ', ← List.append_assoc] at hnumber
    have hscale : (0 : Int) - (1 : Nat) + (k + 1 : Nat) = cs.length + k - cs.length := by omega
    rw [Numeral.digits, hnumber, Numeral.scale, Magnitude.ofDecimal?_mul_pow]
    exact congrArg (Magnitude.ofDecimal? _) hscale

include hdigit hhead in
theorem isNumeralOf_between {k : Nat} (hpos : 0 < k) (hlt : k < cs.length) :
    IsNumeralOf ⟨cs.take k, cs.drop k, none⟩ cs k where
  isDouble :=
    { isWhole := by
        refine ⟨?_, fun c hc => hdigit c (List.mem_of_mem_take hc), .inr ?_⟩
        · intro hnil
          rcases List.take_eq_nil_iff.1 hnil with rfl | rfl
          · omega
          · simp at hlt
        · rwa [List.head?_take, if_neg (by omega)]
      isDigit := fun c hc => hdigit c (List.mem_of_mem_drop hc)
      isDouble := .inl (by simp; omega) }
  value := by
    rw [Numeral.digits, Numeral.scale, List.take_append_drop]
    congr 1
    simp
    omega

include hdigit hne in
theorem isNumeralOf_exponent (e : Int) :
    IsNumeralOf ⟨cs.take 1, cs.drop 1, some e⟩ cs (e + 1) where
  isDouble :=
    { isWhole := by
        obtain ⟨c, ds, rfl⟩ := List.exists_cons_of_ne_nil hne
        exact ⟨by simp, by simpa using hdigit c List.mem_cons_self, .inl rfl⟩
      isDigit := fun c hc => hdigit c (List.mem_of_mem_drop hc)
      isDouble := .inr rfl }
  value := by
    have hlength := List.length_pos_of_ne_nil hne
    rw [Numeral.digits, Numeral.scale, List.take_append_drop]
    congr 1
    simp
    omega

end Shapes

/-- The digits with a point in their midst or beside them, or the first one with an exponent. -/
theorem exists_isNumeralOf {cs : List Char} (hdigit : ∀ c ∈ cs, c.isDigit = true) (hne : cs ≠ [])
    (hhead : cs.head? ≠ some '0') {point : Int} (h : d.digits ≠ 0)
    (hsignificant : d.significant = (cs.map .scalar, point)) :
    ∃ n : Numeral, IsNumeralOf n cs point ∧ d.write = n.write := by
  unfold write
  rw [hsignificant]
  simp only [if_neg h, List.length_map]
  split
  · by_cases hleading : point ≤ 0
    · have hnumeral := isNumeralOf_leading hdigit hne (-point).toNat
      rw [show -((-point).toNat : Int) = point by omega] at hnumeral
      refine ⟨_, hnumeral, ?_⟩
      simp [hleading, Numeral.write, Numeral.fraction, Numeral.power, hne, zeros, Text.ofString]
    by_cases htrailing : (cs.length : Int) ≤ point
    · have hnumeral := isNumeralOf_trailing hdigit hne hhead (point.toNat - cs.length)
      rw [show (cs.length : Int) + (point.toNat - cs.length : Nat) = point by omega] at hnumeral
      refine ⟨_, hnumeral, ?_⟩
      simp [hleading, htrailing, Numeral.write, Numeral.fraction, Numeral.power, zeros,
        Text.ofString]
    · have hnumeral := isNumeralOf_between hdigit hhead (k := point.toNat) (by omega) (by omega)
      rw [show (point.toNat : Int) = point by omega] at hnumeral
      have hdrop : cs.drop point.toNat ≠ [] := by
        simp
        omega
      refine ⟨_, hnumeral, ?_⟩
      simp [hleading, htrailing, Numeral.write, Numeral.fraction, Numeral.power, hdrop,
        Text.ofString]
  · have hnumeral := isNumeralOf_exponent hdigit hne (point - 1)
    rw [show point - 1 + 1 = point by omega] at hnumeral
    have htail : cs.tail = [] ↔ cs.length ≤ 1 := by rw [← List.drop_one, List.drop_eq_nil_iff]
    refine ⟨_, hnumeral, ?_⟩
    simp [Numeral.write, Numeral.fraction, Numeral.power, htail, Text.ofString]

theorem ofDecimal?_zero (exponent : Int) : Magnitude.ofDecimal? 0 exponent = some .zero :=
  if_pos rfl

/-- A decimal number is written as a numeral of the same value. -/
theorem exists_numeral (d : Decimal) : ∃ n : Numeral, n.IsDouble ∧ d.write = n.write ∧
    Magnitude.ofDecimal? n.digits n.scale = Magnitude.ofDecimal? d.digits d.exponent := by
  by_cases h : d.digits = 0
  · refine ⟨⟨['0'], ['0'], none⟩, ⟨⟨by simp, by simp, .inl rfl⟩, by simp, .inl (by simp)⟩, ?_, ?_⟩
    · simp only [write, if_pos h]
      rfl
    · rw [h, ofDecimal?_zero]
      exact ofDecimal?_zero _
  obtain ⟨cs, zeros, hdigit, hne, hhead, hsignificant, hdigits⟩ := exists_trimmed h
  obtain ⟨n, hn, hwrite⟩ := exists_isNumeralOf hdigit hne hhead h hsignificant
  refine ⟨n, hn.isDouble, hwrite, ?_⟩
  rw [hn.value, hdigits, Magnitude.ofDecimal?_mul_pow]
  congr 1
  omega

end Decimal

end SchemaQuery
