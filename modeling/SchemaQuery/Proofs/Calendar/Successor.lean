import SchemaQuery.Proofs.Calendar.Ordinal

/-!
# The day after a day

The calendar goes from one day to the next within a month, then to the first day of the next month,
and behind December to the first day of the next year. Ordinals count these steps: a number of days
later is the day at which so many steps arrive.
-/

namespace SchemaQuery

open Calendar

namespace Date

/-- One day is followed by another one in the calendar. -/
inductive IsFollowedBy (d e : Date) : Prop
  | inMonth : e.year = d.year → e.month = d.month → e.day = d.day + 1 → IsFollowedBy d e
  | intoMonth : d.day = daysInMonth d.year d.month → e.year = d.year → e.month = d.month + 1 →
    e.day = 1 → IsFollowedBy d e
  | intoYear : d.month = 12 → d.day = 31 → e.year = d.year + 1 → e.month = 1 → e.day = 1 →
    IsFollowedBy d e

variable {d e f : Date} {n : Nat}

theorem daysInMonth_twelve (year : Nat) : daysInMonth year 12 = 31 := by
  simp [daysInMonth]

theorem one_le_daysInMonth (year : Nat) {month : Nat} (hpos : 1 ≤ month) (hle : month ≤ 12) :
    1 ≤ daysInMonth year month := by
  unfold daysInMonth
  split_ifs <;> omega

theorem IsFollowedBy.ordinal_eq (h : d.IsFollowedBy e) : e.ordinal = d.ordinal + 1 := by
  cases h with
  | inMonth hyear hmonth hday =>
    simp only [ordinal, hyear, hmonth, hday]
    omega
  | intoMonth hlast hyear hmonth hday =>
    simp only [ordinal, hyear, hmonth, hday, daysBeforeMonth, hlast]
    omega
  | intoYear hdecember hlast hyear hmonth hday =>
    have hlength := daysBeforeMonth_thirteen d.year
    rw [daysBeforeMonth, daysInMonth_twelve] at hlength
    simp only [ordinal, hyear, hmonth, hday, hdecember, hlast, daysBeforeMonth_one,
      daysBeforeYear_succ d.year_pos, ← hlength]
    omega

theorem exists_isFollowedBy (h : d.ordinal < last.ordinal) : ∃ e, d.IsFollowedBy e := by
  obtain ⟨hpos, hle⟩ := month_le_of_day d.day_pos d.day_le
  by_cases hday : d.day < daysInMonth d.year d.month
  · exact ⟨⟨d.year, d.month, d.day + 1, d.year_pos, d.year_le, Nat.succ_pos _, hday⟩,
      .inMonth rfl rfl rfl⟩
  have hlast : d.day = daysInMonth d.year d.month :=
    Nat.le_antisymm d.day_le (Nat.le_of_not_lt hday)
  by_cases hmonth : d.month < 12
  · exact ⟨⟨d.year, d.month + 1, 1, d.year_pos, d.year_le, Nat.le_refl 1,
      one_le_daysInMonth d.year (Nat.succ_pos _) hmonth⟩, .intoMonth hlast rfl rfl rfl⟩
  have hdecember : d.month = 12 := Nat.le_antisymm hle (Nat.le_of_not_lt hmonth)
  rw [hdecember, daysInMonth_twelve] at hlast
  by_cases hyear : d.year < 9999
  · exact ⟨⟨d.year + 1, 1, 1, Nat.succ_pos _, hyear, Nat.le_refl 1,
      one_le_daysInMonth _ (Nat.le_refl 1) (by decide)⟩, .intoYear hdecember hlast rfl rfl rfl⟩
  · have hyear' : d.year = 9999 := Nat.le_antisymm d.year_le (Nat.le_of_not_lt hyear)
    simp [ordinal, last, hyear', hdecember, hlast] at h

theorem isFollowedBy_iff : d.IsFollowedBy e ↔ e.ordinal = d.ordinal + 1 := by
  constructor
  · exact IsFollowedBy.ordinal_eq
  · intro h
    have hlast := e.ordinal_le_last
    obtain ⟨f, hf⟩ := exists_isFollowedBy (d := d) (by omega)
    rwa [eq_of_ordinal_eq (h.trans hf.ordinal_eq.symm)]

/-- A number of days later in the calendar. -/
inductive IsLater : Nat → Date → Date → Prop
  | same (d : Date) : IsLater 0 d d
  | next {n : Nat} {d e f : Date} : IsLater n d e → e.IsFollowedBy f → IsLater (n + 1) d f

theorem isLater_iff : IsLater n d e ↔ e.ordinal = d.ordinal + n := by
  constructor
  · intro h
    induction h with
    | same d => rfl
    | next _ hnext ih => rw [hnext.ordinal_eq, ih, Nat.add_assoc]
  · intro h
    induction n generalizing e with
    | zero =>
      obtain rfl := eq_of_ordinal_eq h
      exact .same _
    | succ n ih =>
      have hlast := e.ordinal_le_last
      obtain ⟨f, hf⟩ :=
        exists_ofOrdinal? (n := d.ordinal + n) (Nat.le_add_right_of_le d.ordinal_pos)
        (by omega)
      have hordinal := ordinal_of_ofOrdinal? hf
      exact .next (ih hordinal) (isFollowedBy_iff.2 (by omega))

end Date

end SchemaQuery
