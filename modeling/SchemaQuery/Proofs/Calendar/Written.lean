import SchemaQuery.Calendar.Iso
import SchemaQuery.Proofs.Calendar.Order
import SchemaQuery.Proofs.Json.Scalar
import SchemaQuery.Proofs.Text.Numeral

/-!
# Dates as texts

A date is written with ten characters, four for the year and two each for month and day. So the text
denotes the date again, and texts of dates are ordered, code point by code point, like the dates: of
two rows of equally many digits the smaller number stands first, and what is behind them counts only
where the numbers are the same.
-/

namespace SchemaQuery

namespace Text

theorem le_append_left (lead s t : Text) : le (lead ++ s) (lead ++ t) = le s t := by
  induction lead with
  | nil => rfl
  | cons a lead ih => rw [List.cons_append, List.cons_append, le, if_pos rfl, ih]

/-- A number with a smaller first digit is smaller, whatever its other digits are. -/
theorem add_mul_lt {p a x y : Nat} (h : a < p) (b : Nat) (hxy : x < y) : x * p + a < y * p + b :=
  calc
    x * p + a < (x + 1) * p := by rw [Nat.succ_mul]; omega
    _ ≤ y * p := Nat.mul_le_mul_right p hxy
    _ ≤ y * p + b := Nat.le_add_right _ _

/-- The first digit that differs decides, and so does the first digit by which numbers differ. -/
theorem le_digits_append {cs ds : List Char} (hcs : ∀ c ∈ cs, c.isDigit = true)
    (hds : ∀ d ∈ ds, d.isDigit = true) (hlen : cs.length = ds.length) (s t : Text) :
    le (cs.map .scalar ++ s) (ds.map .scalar ++ t) = true ↔
      number (digitValues cs) < number (digitValues ds) ∨
        number (digitValues cs) = number (digitValues ds) ∧ le s t = true := by
  induction cs generalizing ds with
  | nil =>
    obtain rfl := List.length_eq_zero_iff.1 hlen.symm
    simp
  | cons c cs ih =>
    cases ds with
    | nil => cases hlen
    | cons d ds =>
      obtain ⟨hc, hcs⟩ := List.forall_mem_cons.1 hcs
      obtain ⟨hd, hds⟩ := List.forall_mem_cons.1 hds
      have hlen := Nat.succ.inj hlen
      have hfirst := number_lt (fun n hn => lt_of_mem_digitValues hcs hn)
      have hsecond := number_lt (fun n hn => lt_of_mem_digitValues hds hn)
      have hc := (Char.isDigit_iff_toNat.1 hc).1
      have hd := (Char.isDigit_iff_toNat.1 hd).1
      rw [digitValues, List.length_map, hlen] at hfirst
      rw [digitValues, List.length_map] at hsecond
      have hrest := ih hcs hds hlen
      simp only [digitValues] at hrest
      simp only [List.map_cons, List.cons_append, le, digitValues, number_cons, List.length_map,
        hlen]
      generalize number (cs.map fun c => c.toNat - '0'.toNat) = m at *
      generalize number (ds.map fun d => d.toNat - '0'.toNat) = n at *
      rcases Nat.lt_trichotomy (CodePoint.scalar c).value (CodePoint.scalar d).value
        with hlt | heq | hgt
      · have hstep := add_mul_lt hfirst n (Nat.sub_lt_sub_right hc hlt)
        rw [if_neg (Nat.ne_of_lt hlt), decide_eq_true_eq]
        exact iff_of_true hlt (.inl hstep)
      · have hchar : c.toNat = d.toNat := heq
        rw [if_pos heq, hrest, hchar, Nat.add_lt_add_iff_left, Nat.add_left_cancel_iff]
      · have hstep := add_mul_lt hsecond m (Nat.sub_lt_sub_right hd hgt)
        rw [if_neg (Nat.ne_of_gt hgt), decide_eq_true_eq]
        refine iff_of_false (Nat.lt_asymm hgt) ?_
        rintro (hlt | ⟨heq, -⟩)
        · exact Nat.lt_asymm hstep hlt
        · exact Nat.ne_of_gt hstep heq

theorem le_padded_append {width m n : Nat} (hpos : 0 < width) (hm : m < 10 ^ width)
    (hn : n < 10 ^ width) (s t : Text) :
    le (padded width m ++ s) (padded width n ++ t) = true ↔ m < n ∨ m = n ∧ le s t = true := by
  have hlen : (paddedDigits width m).length = (paddedDigits width n).length := by
    rw [← List.length_map CodePoint.scalar, ← padded_eq, length_padded hpos hm,
      ← List.length_map CodePoint.scalar, ← padded_eq, length_padded hpos hn]
  rw [padded_eq, padded_eq, le_digits_append (fun c hc => isDigit_of_mem_paddedDigits hc)
    (fun c hc => isDigit_of_mem_paddedDigits hc) hlen, number_paddedDigits, number_paddedDigits]

theorem le_padded {width m n : Nat} (hpos : 0 < width) (hm : m < 10 ^ width)
    (hn : n < 10 ^ width) : le (padded width m) (padded width n) = true ↔ m ≤ n := by
  have happend := le_padded_append hpos hm hn [] []
  rw [List.append_nil, List.append_nil] at happend
  simp only [happend, le, and_true, Nat.le_iff_lt_or_eq]

end Text

/-- Only a surrogate is taken for another separator. -/
theorem Iso.tameSeparator_of_isScalar {t : Text} (h : t.isScalar = true) : tameSeparator t = t := by
  have hnone : ([7, 8, 10].find? fun i => t[i]?.any (!·.isScalar)) = none := by
    rw [List.find?_eq_none]
    intro i _ hany
    obtain ⟨c, hc, hsurrogate⟩ := (Option.any_eq_true _ _).1 hany
    have hscalar := List.all_eq_true.1 h c (List.mem_of_getElem? hc)
    rw [hscalar] at hsurrogate
    cases hsurrogate
  rw [tameSeparator, hnone]

namespace Date

variable (d e : Date)

theorem length_write : d.write.length = 10 := by
  have hyear := Text.length_padded (by decide) d.year_lt
  have hmonth := Text.length_padded (by decide) d.month_lt
  have hday := Text.length_padded (by decide) d.day_lt
  simp [write, hyear, hmonth, hday, Text.ofString]

/-- Texts of dates stand in the order of the dates. -/
theorem le_write_iff : Text.le d.write e.write = true ↔ d ≤ e := by
  simp only [write, List.append_assoc]
  rw [Text.le_padded_append (by decide) d.year_lt e.year_lt, Text.le_append_left,
    Text.le_padded_append (by decide) d.month_lt e.month_lt, Text.le_append_left,
    Text.le_padded (by decide) d.day_lt e.day_lt, le_iff]

/-- No letter stands in a date, so none marks it as a week date. -/
theorem isDigit_of_mem_write {c : Char} (h : CodePoint.scalar c ∈ d.write) :
    c.isDigit = true ∨ c = '-' := by
  have hhyphen (h : CodePoint.scalar c ∈ Text.ofString "-") : c = '-' := by
    simpa [Text.ofString] using h
  simp only [write, List.mem_append] at h
  rcases h with (((h | h) | h) | h) | h
  · exact .inl (Text.isDigit_of_mem_padded h)
  · exact .inr (hhyphen h)
  · exact .inl (Text.isDigit_of_mem_padded h)
  · exact .inr (hhyphen h)
  · exact .inl (Text.isDigit_of_mem_padded h)

theorem not_week_mem_write : CodePoint.scalar 'W' ∉ d.write := by
  intro h
  rcases d.isDigit_of_mem_write h with hdigit | heq
  · cases hdigit
  · cases heq

theorem dateLength?_write : Iso.dateLength? d.write = some 10 := by
  have hyear := Text.length_padded (by decide) d.year_lt
  have hhyphen : d.write[4]? = some (.scalar '-') := by
    simp [write, Text.ofString, hyear]
  have hweek : d.write[5]? ≠ some (.scalar 'W') :=
    fun h => d.not_week_mem_write (List.mem_of_getElem? h)
  unfold Iso.dateLength?
  simp only [d.length_write, hhyphen, hweek, decide_true, decide_false, if_true, if_false,
    Bool.false_eq_true, Nat.reduceLT, Nat.reduceEqDiff]

theorem date?_write : Iso.date? 10 d.write = some d := by
  have hweek : Text.after? "W" (Text.padded 2 d.month ++ ("-" ++ Text.padded 2 d.day)) = none := by
    rw [Option.eq_none_iff_forall_ne_some]
    intro rest h
    apply d.not_week_mem_write
    rw [write, List.append_assoc, List.append_assoc, Text.eq_append_of_after? h]
    simp [Text.ofString]
  have hhyphen (t : Text) : (("-" : Text) ++ t).head? = some (.scalar '-') := rfl
  have hday := Text.digits?_padded (by decide) d.day_lt []
  rw [List.append_nil] at hday
  simp only [Iso.date?, write, List.append_assoc, Text.digits?_padded (by decide : 0 < 4) d.year_lt,
    Text.digits?_padded (by decide : 0 < 2) d.month_lt, hday, hhyphen, if_true,
    Text.after?_append, hweek, Option.bind_eq_bind, Option.bind_some, of?_self]

theorem isScalar_write : d.write.isScalar = true := by simp [write]

theorem read?_write : Moment.read? d.write = some (.ofDate d) := by
  have hrest : d.write.drop 10 = [] := List.drop_of_length_le (Nat.le_of_eq d.length_write)
  simp only [Moment.read?, Iso.tameSeparator_of_isScalar d.isScalar_write, d.isScalar_write,
    if_true, Moment.readScalar?, d.dateLength?_write, d.date?_write, hrest, Option.bind_eq_bind,
    Option.bind_some]
  rfl

end Date

end SchemaQuery
