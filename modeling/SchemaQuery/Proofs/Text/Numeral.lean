import SchemaQuery.Text.Numeral

/-!
# Decimal notation read back

Digits that were written for a number denote that number again, with any number of zeros in front.
So a padded number is found again behind a fixed count of digits, whatever stands behind it, and two
numbers never have the same notation.
-/

namespace SchemaQuery.Text

def paddedDigits (width n : Nat) : List Char :=
  List.replicate (width - (Nat.toDigits 10 n).length) '0' ++ Nat.toDigits 10 n

def digitValues (cs : List Char) : List Nat := cs.map fun c => c.toNat - '0'.toNat

theorem padded_eq (width n : Nat) : padded width n = (paddedDigits width n).map .scalar := by
  simp [padded, paddedDigits, ofNat]

theorem isDigit_of_mem_paddedDigits {width n : Nat} {c : Char} (h : c ∈ paddedDigits width n) :
    c.isDigit = true := by
  rcases List.mem_append.1 h with hzero | hdigit
  · rw [List.eq_of_mem_replicate hzero]
    rfl
  · exact Nat.isDigit_of_mem_toDigits (by decide) (by decide) hdigit

theorem isDigit_of_mem_padded {width n : Nat} {c : Char}
    (h : CodePoint.scalar c ∈ padded width n) : c.isDigit = true := by
  rw [padded_eq] at h
  obtain ⟨e, he, heq⟩ := List.mem_map.1 h
  cases heq
  exact isDigit_of_mem_paddedDigits he

theorem length_padded {width n : Nat} (hpos : 0 < width) (h : n < 10 ^ width) :
    (padded width n).length = width := by
  have hlen := (Nat.length_toDigits_le_iff (by decide) hpos).2 h
  simp only [padded_eq, paddedDigits, List.length_map, List.length_append, List.length_replicate]
  omega

theorem lt_of_mem_digitValues {cs : List Char} (h : ∀ c ∈ cs, c.isDigit = true) {d : Nat}
    (hd : d ∈ digitValues cs) : d < 10 := by
  obtain ⟨c, hc, rfl⟩ := List.mem_map.1 hd
  have hhigh : c.toNat ≤ 57 := (Char.isDigit_iff_toNat.1 (h c hc)).2
  have hzero : '0'.toNat = 48 := rfl
  omega

theorem length_digitValues_padded {width n : Nat} (hpos : 0 < width) (h : n < 10 ^ width) :
    (digitValues (paddedDigits width n)).length = width := by
  have hlen := length_padded hpos h
  rw [padded_eq, List.length_map] at hlen
  rw [digitValues, List.length_map, hlen]

theorem mapM_digit? {cs : List Char} (h : ∀ c ∈ cs, c.isDigit = true) :
    (cs.map CodePoint.scalar).mapM CodePoint.digit? = some (digitValues cs) := by
  induction cs with
  | nil => rfl
  | cons c cs ih =>
    have hc := h c List.mem_cons_self
    have hcs := ih fun d hd => h d (List.mem_cons_of_mem _ hd)
    simp [List.mapM_cons, CodePoint.digit?, hc, hcs, digitValues]

theorem mapM_digit?_padded (width n : Nat) :
    (padded width n).mapM CodePoint.digit? = some (digitValues (paddedDigits width n)) := by
  rw [padded_eq]
  exact mapM_digit? fun c hc => isDigit_of_mem_paddedDigits hc

theorem number_digitValues (cs : List Char) :
    number (digitValues cs) = Nat.ofDigitChars 10 cs 0 := by
  simp [number, digitValues, Nat.ofDigitChars, List.foldl_map]

theorem number_paddedDigits (width n : Nat) :
    number (digitValues (paddedDigits width n)) = n := by
  simp [number_digitValues, paddedDigits, Nat.ofDigitChars_append]

theorem foldl_digits (digits : List Nat) (n : Nat) :
    digits.foldl (fun n d => 10 * n + d) n = n * 10 ^ digits.length + number digits := by
  induction digits generalizing n with
  | nil => simp [number]
  | cons d digits ih =>
    have hstep (k : Nat) : List.foldl (fun n d => 10 * n + d) k (d :: digits) =
        (10 * k + d) * 10 ^ digits.length + number digits := ih (10 * k + d)
    rw [number, hstep, hstep, List.length_cons, Nat.pow_succ]
    grind

theorem number_append (first second : List Nat) :
    number (first ++ second) = number first * 10 ^ second.length + number second := by
  rw [number, List.foldl_append, foldl_digits]
  rfl

theorem number_cons (d : Nat) (digits : List Nat) :
    number (d :: digits) = d * 10 ^ digits.length + number digits := by
  rw [← List.singleton_append, number_append]
  simp [number]

theorem number_lt {digits : List Nat} (h : ∀ d ∈ digits, d < 10) :
    number digits < 10 ^ digits.length := by
  induction digits with
  | nil => decide
  | cons d digits ih =>
    have hd := h d List.mem_cons_self
    have hdigits := ih fun e he => h e (List.mem_cons_of_mem _ he)
    rw [number_cons, List.length_cons, Nat.pow_succ]
    have hle := Nat.mul_le_mul_right (10 ^ digits.length) (Nat.le_of_lt_succ hd)
    omega

theorem number_zeros (n : Nat) : number (digitValues (List.replicate n '0')) = 0 := by
  induction n with
  | zero => rfl
  | succ n ih => simpa [List.replicate_succ, digitValues, number] using ih

theorem number_append_zeros (cs : List Char) (n : Nat) :
    number (digitValues (cs ++ List.replicate n '0')) = number (digitValues cs) * 10 ^ n := by
  have hzeros := number_zeros n
  simp only [digitValues, List.map_append] at hzeros ⊢
  rw [number_append, hzeros, List.length_map, List.length_replicate, Nat.add_zero]

theorem number_zeros_append (n : Nat) (cs : List Char) :
    number (digitValues (List.replicate n '0' ++ cs)) = number (digitValues cs) := by
  have hzeros := number_zeros n
  simp only [digitValues, List.map_append] at hzeros ⊢
  rw [number_append, hzeros, Nat.zero_mul, Nat.zero_add]

theorem number_toDigits (n : Nat) : number (digitValues (Nat.toDigits 10 n)) = n := by
  rw [number_digitValues, Nat.ofDigitChars_toDigits (by decide) (by decide)]

/-- Only zero is written with a zero in front. -/
theorem head?_toDigits {n : Nat} (h : n ≠ 0) : (Nat.toDigits 10 n).head? ≠ some '0' := by
  induction n using Nat.strongRecOn with
  | ind n ih =>
    rw [Nat.toDigits_eq_if (by decide)]
    split
    · rename_i hlt
      have hdigit : ∀ d < 10, d ≠ 0 → d.digitChar ≠ '0' := by decide
      simpa using hdigit n hlt h
    · rename_i hge
      have hhead := ih (n / 10) (by omega) (by omega)
      cases hdigits : Nat.toDigits 10 (n / 10) with
      | nil => exact absurd hdigits Nat.toDigits_ne_nil
      | cons c cs =>
        rw [hdigits] at hhead
        exact hhead

theorem digits?_padded {width n : Nat} (hpos : 0 < width) (h : n < 10 ^ width) (rest : Text) :
    digits? width (padded width n ++ rest) = some (n, rest) := by
  have hlen := length_padded hpos h
  have htake : (padded width n ++ rest).take width = padded width n := List.take_left' hlen
  have hdrop : (padded width n ++ rest).drop width = rest := List.drop_left' hlen
  simp [digits?, htake, hdrop, hlen, mapM_digit?_padded, number_paddedDigits]

theorem exists_of_digit? {c : CodePoint} {d : Nat} (h : c.digit? = some d) :
    ∃ e : Char, c = .scalar e ∧ e.isDigit = true ∧ d = e.toNat - '0'.toNat := by
  unfold CodePoint.digit? at h
  split at h
  · split at h
    · cases h
      exact ⟨_, rfl, by assumption, rfl⟩
    · cases h
  · cases h

theorem lt_of_digit? {c : CodePoint} {d : Nat} (h : c.digit? = some d) : d < 10 := by
  obtain ⟨e, -, he, rfl⟩ := exists_of_digit? h
  have hhigh : e.toNat ≤ 57 := (Char.isDigit_iff_toNat.1 he).2
  have hzero : '0'.toNat = 48 := rfl
  omega

theorem spanDigits_append {cs : List Char} (h : ∀ c ∈ cs, c.isDigit = true) {rest : Text}
    (hrest : ∀ c ∈ rest.head?, c.digit? = none) :
    spanDigits (cs.map .scalar ++ rest) = (digitValues cs, rest) := by
  induction cs with
  | nil =>
    cases rest with
    | nil => rfl
    | cons c rest => simp [spanDigits, digitValues, hrest c rfl]
  | cons c cs ih =>
    have hc := h c List.mem_cons_self
    have hcs := ih fun d hd => h d (List.mem_cons_of_mem _ hd)
    simp [spanDigits, CodePoint.digit?, hc, hcs, digitValues]

theorem exists_of_spanDigits {t rest : Text} {digits : List Nat}
    (h : spanDigits t = (digits, rest)) : ∃ cs : List Char, (∀ c ∈ cs, c.isDigit = true) ∧
      t = cs.map .scalar ++ rest ∧ digits = digitValues cs ∧ ∀ c ∈ rest.head?, c.digit? = none := by
  induction t generalizing digits with
  | nil =>
    cases h
    exact ⟨[], by simp, rfl, rfl, by simp⟩
  | cons c t ih =>
    unfold spanDigits at h
    split at h
    · rename_i d hd
      cases h
      obtain ⟨cs, hcs, ht, hdigits, hrest⟩ := ih rfl
      obtain ⟨e, rfl, he, rfl⟩ := exists_of_digit? hd
      refine ⟨e :: cs, List.forall_mem_cons.2 ⟨he, hcs⟩, ?_, ?_, hrest⟩
      · rw [List.map_cons, List.cons_append, ← ht]
      · rw [hdigits]
        rfl
    · rename_i hnone
      cases h
      exact ⟨[], by simp, rfl, rfl, by simpa using hnone⟩

theorem spanDigits_padded (width n : Nat) {rest : Text}
    (hrest : ∀ c ∈ rest.head?, c.digit? = none) :
    spanDigits (padded width n ++ rest) = (digitValues (paddedDigits width n), rest) := by
  rw [padded_eq]
  exact spanDigits_append (fun c hc => isDigit_of_mem_paddedDigits hc) hrest

theorem padded_injective {width m n : Nat} (h : padded width m = padded width n) : m = n := by
  have hdigits := mapM_digit?_padded width m
  rw [h, mapM_digit?_padded, Option.some.injEq] at hdigits
  rw [← number_paddedDigits width m, ← number_paddedDigits width n, hdigits]

end SchemaQuery.Text
