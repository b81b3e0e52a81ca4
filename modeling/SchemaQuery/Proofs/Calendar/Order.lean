import Mathlib.Tactic.SplitIfs
import SchemaQuery.Calendar.Moment

/-!
# The order of days and moments

Ordinals count the days of the calendar one after another: a year takes up exactly its own days, so
a day of an earlier year has the smaller ordinal. The instant of a moment is its distance from the
first midnight at UTC, and moments of one offset are ordered by date and time on the wall.
-/

namespace SchemaQuery

namespace Calendar

/-- Only months behind February begin later in a leap year, by one day. -/
theorem daysBeforeMonth_eq (year month : Nat) :
    daysBeforeMonth year month =
      daysBeforeMonth 1 month + if 2 < month ∧ isLeap year = true then 1 else 0 := by
  induction month with
  | zero => simp [daysBeforeMonth]
  | succ month ih =>
    have hone : isLeap 1 = false := rfl
    by_cases hfeb : month = 2
    · subst hfeb
      cases h : isLeap year <;> simp [daysBeforeMonth, daysInMonth, h, hone]
    · have hlen : daysInMonth year month = daysInMonth 1 month := by
        simp [daysInMonth, hfeb]
      have hbehind : 2 < month + 1 ↔ 2 < month := by omega
      simp only [daysBeforeMonth, ih, hlen, hbehind]
      omega

theorem daysBeforeMonth_thirteen (year : Nat) : daysBeforeMonth year 13 = daysInYear year := by
  cases h : isLeap year <;> simp [daysBeforeMonth, daysInMonth, daysInYear, h]

theorem daysBeforeMonth_mono (year : Nat) {a b : Nat} (h : a ≤ b) :
    daysBeforeMonth year a ≤ daysBeforeMonth year b := by
  induction h with
  | refl => exact Nat.le_refl _
  | step _ ih => exact Nat.le_trans ih (Nat.le_add_right _ _)

theorem daysInYear_le (year : Nat) : daysInYear year ≤ 366 := by
  unfold daysInYear
  split <;> omega

theorem div_of_pos {n : Nat} (hn : 1 ≤ n) (k : Nat) :
    n / k = (n - 1) / k + if n % k = 0 then 1 else 0 := by
  obtain ⟨m, rfl⟩ : ∃ m, n = m + 1 := ⟨n - 1, by omega⟩
  rw [Nat.succ_div]
  simp [Nat.dvd_iff_mod_eq_zero]

theorem daysBeforeYear_succ {year : Nat} (h : 1 ≤ year) :
    daysBeforeYear (year + 1) = daysBeforeYear year + daysInYear year := by
  have hle : (year - 1) / 100 ≤ (year - 1) / 4 := Nat.div_le_div_left (by decide) (by decide)
  have h4 := div_of_pos h 4
  have h100 := div_of_pos h 100
  have h400 := div_of_pos h 400
  have hof100 : year % 100 = 0 → year % 4 = 0 := by omega
  have hof400 : year % 400 = 0 → year % 100 = 0 := by omega
  simp only [daysBeforeYear, daysInYear, isLeap, Nat.add_sub_cancel, h4, h100, h400]
  -- The three divisibilities decide whether the year is a leap year.
  by_cases c4 : year % 4 = 0 <;> by_cases c100 : year % 100 = 0 <;>
    by_cases c400 : year % 400 = 0 <;> simp [c4, c100, c400] at hof100 hof400 ⊢ <;> omega

theorem daysBeforeYear_mono {a b : Nat} (ha : 1 ≤ a) (h : a ≤ b) :
    daysBeforeYear a ≤ daysBeforeYear b := by
  induction h with
  | refl => exact Nat.le_refl _
  | step hb ih =>
    rw [Nat.succ_eq_add_one, daysBeforeYear_succ (Nat.le_trans ha hb)]
    exact Nat.le_trans ih (Nat.le_add_right _ _)

theorem daysInMonth_le (year month : Nat) : daysInMonth year month ≤ 31 := by
  unfold daysInMonth
  split_ifs <;> omega

theorem month_le_of_day {year month day : Nat} (hpos : 1 ≤ day) (h : day ≤ daysInMonth year month) :
    1 ≤ month ∧ month ≤ 12 := by
  unfold daysInMonth at h
  split_ifs at h <;> omega

end Calendar

open Calendar

namespace Date

variable (d : Date)

theorem of?_eq_some_iff {year month day : Nat} {d : Date} :
    of? year month day = some d ↔ d.year = year ∧ d.month = month ∧ d.day = day := by
  constructor
  · intro h
    unfold of? at h
    split at h
    · cases h
      exact ⟨rfl, rfl, rfl⟩
    · cases h
  · rintro ⟨rfl, rfl, rfl⟩
    exact of?_self d

theorem year_lt : d.year < 10 ^ 4 := Nat.lt_succ_of_le d.year_le

theorem month_lt : d.month < 10 ^ 2 :=
  Nat.lt_of_le_of_lt (month_le_of_day d.day_pos d.day_le).2 (by decide)

theorem day_lt : d.day < 10 ^ 2 :=
  Nat.lt_of_le_of_lt (Nat.le_trans d.day_le (daysInMonth_le _ _)) (by decide)

theorem daysBeforeYear_lt_ordinal : daysBeforeYear d.year < d.ordinal := by
  have := d.day_pos
  unfold ordinal
  omega

theorem ordinal_le_daysBeforeYear_succ : d.ordinal ≤ daysBeforeYear (d.year + 1) := by
  have hm := (month_le_of_day d.day_pos d.day_le).2
  have hmono := daysBeforeMonth_mono d.year (Nat.succ_le_succ hm)
  have hday := d.day_le
  rw [daysBeforeMonth_thirteen] at hmono
  rw [daysBeforeYear_succ d.year_pos]
  simp only [daysBeforeMonth, ordinal] at hmono ⊢
  omega

theorem ordinal_lt_of_year_lt {a b : Date} (h : a.year < b.year) : a.ordinal < b.ordinal :=
  calc
    a.ordinal ≤ daysBeforeYear (a.year + 1) := a.ordinal_le_daysBeforeYear_succ
    _ ≤ daysBeforeYear b.year := daysBeforeYear_mono (Nat.succ_pos _) h
    _ < b.ordinal := b.daysBeforeYear_lt_ordinal

theorem ordinal_le_of_year_eq {a b : Date} (h : a.year = b.year) : a.ordinal ≤ b.ordinal + 366 := by
  have ha := a.ordinal_le_daysBeforeYear_succ
  have hb := b.daysBeforeYear_lt_ordinal
  rw [daysBeforeYear_succ a.year_pos, h] at ha
  have := daysInYear_le b.year
  omega

/-- Within one year the later month begins behind the last day of the earlier one. -/
theorem ordinal_lt_of_month_lt {a b : Date} (hyear : a.year = b.year) (h : a.month < b.month) :
    a.ordinal < b.ordinal := by
  have hmono := daysBeforeMonth_mono a.year (Nat.succ_le_of_lt h)
  have hday := a.day_le
  have hpos := b.day_pos
  simp only [daysBeforeMonth, ordinal, ← hyear] at hmono ⊢
  omega

theorem eq_of_ordinal_eq {a b : Date} (h : a.ordinal = b.ordinal) : a = b := by
  have hyear : a.year = b.year := by
    rcases Nat.lt_trichotomy a.year b.year with hlt | heq | hlt
    · exact absurd h (Nat.ne_of_lt (ordinal_lt_of_year_lt hlt))
    · exact heq
    · exact absurd h.symm (Nat.ne_of_lt (ordinal_lt_of_year_lt hlt))
  have hmonth : a.month = b.month := by
    rcases Nat.lt_trichotomy a.month b.month with hlt | heq | hlt
    · exact absurd h (Nat.ne_of_lt (ordinal_lt_of_month_lt hyear hlt))
    · exact heq
    · exact absurd h.symm (Nat.ne_of_lt (ordinal_lt_of_month_lt hyear.symm hlt))
  obtain ⟨ya, ma, da, _, _, _, _⟩ := a
  obtain ⟨yb, mb, db, _, _, _, _⟩ := b
  simp only [ordinal] at hyear hmonth h
  subst hyear hmonth
  obtain rfl : da = db := by omega
  rfl

theorem le_antisymm {a b : Date} (hab : a ≤ b) (hba : b ≤ a) : a = b :=
  eq_of_ordinal_eq (Nat.le_antisymm hab hba)

/-- Days are ordered by year, then by month, then by day. -/
theorem le_iff {a b : Date} : a ≤ b ↔ a.year < b.year ∨
    a.year = b.year ∧ (a.month < b.month ∨ a.month = b.month ∧ a.day ≤ b.day) := by
  have hle : a ≤ b ↔ a.ordinal ≤ b.ordinal := Iff.rfl
  rw [hle]
  rcases Nat.lt_trichotomy a.year b.year with hyear | hyear | hyear
  · have := ordinal_lt_of_year_lt hyear
    omega
  · rcases Nat.lt_trichotomy a.month b.month with hmonth | hmonth | hmonth
    · have := ordinal_lt_of_month_lt hyear hmonth
      omega
    · have hday : a.ordinal ≤ b.ordinal ↔ a.day ≤ b.day := by
        rw [ordinal, ordinal, hyear, hmonth]
        omega
      omega
    · have := ordinal_lt_of_month_lt hyear.symm hmonth
      omega
  · have := ordinal_lt_of_year_lt hyear
    omega

theorem year_le_of_le {a b : Date} (h : a ≤ b) : a.year ≤ b.year :=
  Nat.le_of_not_lt fun hlt => Nat.not_le_of_lt (ordinal_lt_of_year_lt hlt) h

end Date

namespace TimeOfDay

def microseconds (t : TimeOfDay) : Nat :=
  ((t.hour * 60 + t.minute) * 60 + t.second) * 1000000 + t.microsecond

theorem microseconds_lt (t : TimeOfDay) : t.microseconds < 86400000000 := by
  have := t.hour_lt
  have := t.minute_lt
  have := t.second_lt
  have := t.microsecond_lt
  unfold microseconds
  omega

theorem microseconds_eq_zero (t : TimeOfDay) : t.microseconds = 0 ↔ t = .midnight := by
  obtain ⟨hour, minute, second, microsecond, -, -, -, -⟩ := t
  simp only [microseconds, midnight, TimeOfDay.mk.injEq]
  omega

end TimeOfDay

namespace Moment

/-- Microseconds since the midnight at which 0001-01-01 begins at UTC, less one day. A moment
without an offset counts as one at UTC. -/
def instant (m : Moment) : Int :=
  (m.date.ordinal * 86400000000 + m.time.microseconds : Nat) -
    (m.offset.map UtcOffset.microseconds).getD 0

/-- Microseconds on the wall. Moments of one time zone, and moments without an offset, follow one
another in this order, also where the zone changes its offset between them. -/
def wall (m : Moment) : Nat := m.date.ordinal * 86400000000 + m.time.microseconds

theorem instant_eq_wall_sub (m : Moment) :
    m.instant = m.wall - (m.offset.map UtcOffset.microseconds).getD 0 :=
  rfl

/-- Of two moments with one offset the earlier one shows the earlier time. -/
theorem instant_le_iff_wall_le {a b : Moment} (h : a.offset = b.offset) :
    a.instant ≤ b.instant ↔ a.wall ≤ b.wall := by
  rw [instant_eq_wall_sub, instant_eq_wall_sub, h]
  omega

theorem date_le_of_wall_le {a b : Moment} (h : a.wall ≤ b.wall) : a.date ≤ b.date := by
  have htime := b.time.microseconds_lt
  unfold wall at h
  apply Nat.le_of_not_lt
  intro hlt
  omega

def midnightOf (m : Moment) (d : Date) : Moment := ⟨d, .midnight, m.offset⟩

theorem wall_ofDate (d : Date) : (ofDate d).wall = d.ordinal * 86400000000 := by
  have hmid : TimeOfDay.midnight.microseconds = 0 := rfl
  rw [wall, ofDate, hmid, Nat.add_zero]

theorem instant_le_midnightOf_iff (m : Moment) (d : Date) :
    m.instant ≤ (m.midnightOf d).instant ↔ m.wall ≤ (ofDate d).wall := by
  have hwall : (m.midnightOf d).wall = (ofDate d).wall := by rw [wall, wall, midnightOf, ofDate]
  have hoffset : m.offset = (m.midnightOf d).offset := rfl
  rw [instant_le_iff_wall_le hoffset, hwall]

theorem isAfterMidnightOf_iff (m : Moment) (d : Date) :
    m.isAfterMidnightOf d ↔ (m.midnightOf d).instant < m.instant := by
  have htime := m.time.microseconds_lt
  have hzero := m.time.microseconds_eq_zero
  have hmid : TimeOfDay.midnight.microseconds = 0 := rfl
  have hlt : d < m.date ↔ d.ordinal < m.date.ordinal := Iff.rfl
  have heq : d = m.date ↔ d.ordinal = m.date.ordinal :=
    ⟨congrArg Date.ordinal, Date.eq_of_ordinal_eq⟩
  simp only [isAfterMidnightOf, instant, midnightOf, hmid, hlt, heq, ne_eq, ← hzero]
  omega

end Moment

end SchemaQuery
