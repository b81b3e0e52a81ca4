import Mathlib.Order.Bounds.Defs
import SchemaQuery.Proofs.Calendar.Order

/-!
# Days by their ordinals

The ordinals from 1 to that of 9999-12-31 belong to one day each, and no other number is the ordinal
of a day. So days later than the calendar reaches are exactly those that cannot be counted to.

Years and months are found by taking one after the other off a number of days. What is left at the
end, together with the days that were taken off, is the number itself.
-/

namespace SchemaQuery

open Calendar

namespace Date

/-- What is left of a number of days when at most `limit` parts, counted from `start` on, have been
taken off it. The parts before each one make up `before` days, and the part itself has `size` days.
-/
structure IsPeeled (before size : Nat → Nat) (limit start days : Nat) (left : Nat × Nat) :
    Prop where
  total : before left.1 + left.2 = before start + days
  start_le : start ≤ left.1
  le_limit : left.1 ≤ start + limit
  fits : left.1 = start + limit ∨ left.2 ≤ size left.1
  pos : 1 ≤ days → 1 ≤ left.2

variable {before size : Nat → Nat} {limit start days : Nat} {left : Nat × Nat}

theorem IsPeeled.zero : IsPeeled before size 0 start days (start, days) :=
  ⟨rfl, Nat.le_refl _, Nat.le_refl _, Or.inl rfl, id⟩

theorem IsPeeled.done (h : days ≤ size start) :
    IsPeeled before size limit start days (start, days) :=
  ⟨rfl, Nat.le_refl _, Nat.le_add_right _ _, Or.inr h, id⟩

theorem IsPeeled.step (hbefore : before (start + 1) = before start + size start)
    (hsize : ¬ days ≤ size start)
    (h : IsPeeled before size limit (start + 1) (days - size start) left) :
    IsPeeled before size (limit + 1) start days left := by
  obtain ⟨htotal, hstart, hlimit, hfits, hpos⟩ := h
  refine ⟨?_, ?_, ?_, ?_, ?_⟩
  · rw [htotal, hbefore]
    omega
  · exact Nat.le_of_succ_le hstart
  · omega
  · rcases hfits with heq | hle
    · exact Or.inl (by omega)
    · exact Or.inr hle
  · intro _
    exact hpos (by omega)

theorem isPeeled_peelYears {year : Nat} (h : 1 ≤ year) (limit days : Nat) :
    IsPeeled daysBeforeYear daysInYear limit year days (peelYears limit year days) := by
  induction limit generalizing year days with
  | zero => exact .zero
  | succ limit ih =>
    unfold peelYears
    split
    · rename_i hfits
      exact .done hfits
    · rename_i hmore
      exact .step (daysBeforeYear_succ h) hmore (ih (Nat.le_succ_of_le h) _)

theorem isPeeled_peelMonths (year limit month days : Nat) :
    IsPeeled (daysBeforeMonth year) (daysInMonth year) limit month days
      (peelMonths year limit month days) := by
  induction limit generalizing month days with
  | zero => exact .zero
  | succ limit ih =>
    unfold peelMonths
    split
    · rename_i hfits
      exact .done hfits
    · rename_i hmore
      exact .step rfl hmore (ih (month + 1) _)

/-! ### The range of ordinals -/

variable {n : Nat} {d e : Date}

def last : Date := ⟨9999, 12, 31, first.year_le, by decide, by decide, by decide⟩

theorem ordinal_last : last.ordinal = daysBeforeYear 10000 := by decide

theorem ordinal_pos (d : Date) : 1 ≤ d.ordinal :=
  Nat.le_trans d.day_pos (Nat.le_add_left _ _)

theorem ordinal_le_last (d : Date) : d.ordinal ≤ last.ordinal :=
  calc
    d.ordinal ≤ daysBeforeYear (d.year + 1) := d.ordinal_le_daysBeforeYear_succ
    _ ≤ daysBeforeYear 10000 :=
      daysBeforeYear_mono (Nat.succ_pos _) (Nat.succ_le_succ d.year_le)
    _ = last.ordinal := ordinal_last.symm

theorem ofOrdinal?_eq (n : Nat) :
    ∃ years months, IsPeeled daysBeforeYear daysInYear 9998 1 n years ∧
      IsPeeled (daysBeforeMonth years.1) (daysInMonth years.1) 11 1 years.2 months ∧
      ofOrdinal? n = of? years.1 months.1 months.2 :=
  ⟨_, _, isPeeled_peelYears (Nat.le_refl 1) 9998 n, isPeeled_peelMonths _ 11 1 _, rfl⟩

theorem daysBeforeYear_one : daysBeforeYear 1 = 0 := rfl

theorem daysBeforeMonth_one (year : Nat) : daysBeforeMonth year 1 = 0 := rfl

theorem ordinal_of_ofOrdinal? (h : ofOrdinal? n = some d) : d.ordinal = n := by
  obtain ⟨years, months, hyears, hmonths, heq⟩ := ofOrdinal?_eq n
  rw [heq] at h
  obtain ⟨hyear, hmonth, hday⟩ := of?_eq_some_iff.1 h
  have hin := hmonths.total
  have hall := hyears.total
  rw [daysBeforeMonth_one, ← hyear, ← hmonth, ← hday] at hin
  rw [daysBeforeYear_one, ← hyear] at hall
  unfold ordinal
  omega

theorem exists_ofOrdinal? (hpos : 1 ≤ n) (hle : n ≤ last.ordinal) : ∃ d, ofOrdinal? n = some d := by
  obtain ⟨years, months, hyears, hmonths, heq⟩ := ofOrdinal?_eq n
  have hyear : years.2 ≤ daysInYear years.1 := by
    rcases hyears.fits with hlimit | hfits
    · have htotal := hyears.total
      have hlast : years.1 = 9999 := hlimit
      have hend : daysBeforeYear 10000 = daysBeforeYear 9999 + daysInYear 9999 :=
        daysBeforeYear_succ (by decide)
      rw [daysBeforeYear_one, hlast] at htotal
      rw [ordinal_last, hend] at hle
      rw [hlast]
      omega
    · exact hfits
  have hmonth : months.2 ≤ daysInMonth years.1 months.1 := by
    rcases hmonths.fits with hlimit | hfits
    · have htotal := hmonths.total
      have hlast : months.1 = 12 := hlimit
      have hend := daysBeforeMonth_thirteen years.1
      rw [daysBeforeMonth] at hend
      rw [daysBeforeMonth_one, hlast] at htotal
      rw [hlast]
      omega
    · exact hfits
  have hbound := hyears.le_limit
  refine ⟨⟨years.1, months.1, months.2, hyears.start_le, hbound, hmonths.pos (hyears.pos hpos),
    hmonth⟩, ?_⟩
  rw [heq]
  exact of?_eq_some_iff.2 ⟨rfl, rfl, rfl⟩

theorem ofOrdinal?_eq_some_iff : ofOrdinal? n = some d ↔ d.ordinal = n := by
  constructor
  · exact ordinal_of_ofOrdinal?
  · rintro rfl
    obtain ⟨e, he⟩ := exists_ofOrdinal? d.ordinal_pos d.ordinal_le_last
    rw [he, eq_of_ordinal_eq (ordinal_of_ofOrdinal? he)]

theorem addDays?_eq_some_iff : d.addDays? n = some e ↔ e.ordinal = d.ordinal + n :=
  ofOrdinal?_eq_some_iff

/-- Days cannot be counted on exactly when they pass the end of the calendar. -/
theorem addDays?_eq_none_iff : d.addDays? n = none ↔ last.ordinal < d.ordinal + n := by
  constructor
  · intro hnone
    refine Nat.lt_of_not_le fun hle => ?_
    obtain ⟨e, he⟩ := exists_ofOrdinal? (Nat.le_add_right_of_le d.ordinal_pos) hle
    rw [addDays?, he] at hnone
    cases hnone
  · intro hlt
    rw [Option.eq_none_iff_forall_ne_some]
    intro e he
    have hordinal := addDays?_eq_some_iff.1 he
    have hlast := e.ordinal_le_last
    omega

/-! ### Mondays -/

/-- The ordinal of the first Monday that is not before the day; Mondays have the ordinals 1, 8, 15
and so on. -/
def nextMondayOrdinal (d : Date) : Nat := d.ordinal + (7 - d.weekday) % 7

theorem isLeast_nextMondayOrdinal (d : Date) :
    IsLeast {n | d.ordinal ≤ n ∧ n % 7 = 1} d.nextMondayOrdinal := by
  unfold nextMondayOrdinal weekday
  constructor
  · exact ⟨Nat.le_add_right _ _, by omega⟩
  · rintro n ⟨hle, hmonday⟩
    omega

theorem nextMonday?_eq_some_iff : d.nextMonday? = some e ↔ e.ordinal = d.nextMondayOrdinal :=
  addDays?_eq_some_iff

theorem nextMonday?_eq_none_iff : d.nextMonday? = none ↔ last.ordinal < d.nextMondayOrdinal :=
  addDays?_eq_none_iff

end Date

end SchemaQuery
