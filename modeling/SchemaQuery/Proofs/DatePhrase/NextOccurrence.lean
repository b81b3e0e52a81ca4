import Mathlib.Order.Bounds.Defs
import SchemaQuery.DatePhrase
import SchemaQuery.Proofs.Calendar.Order

/-!
# The next occurrence of a day without a year

A day and a month have a place in every year, or in none: 29 February, which most years lack, moves
to the 28th there. The main statement says that a phrase without a year denotes the earliest of
these places, from the year of the moment on, whose midnight is not before the moment.
-/

namespace SchemaQuery

open Calendar

namespace DatePhrase

def placed? (day month year : Nat) : Option Date :=
  Date.of? year month (if day = 29 ∧ month = 2 ∧ isLeap year = false then 28 else day)

/-- Some year has the day. -/
def Occurs (day month : Nat) : Prop := ∃ year, 1 ≤ day ∧ day ≤ daysInMonth year month

/-- The places from the year of a moment on whose midnight, on the same wall, is not before the
moment. -/
def upcoming (p : DatePhrase) (now : Moment) : Set Date :=
  {d | ∃ year, now.date.year ≤ year ∧ placed? p.day p.month year = some d ∧
    now.instant ≤ (now.midnightOf d).instant}

theorem eq_of_placed? {day month year : Nat} {d : Date} (h : placed? day month year = some d) :
    d.year = year ∧ d.month = month ∧
      d.day = if day = 29 ∧ month = 2 ∧ isLeap year = false then 28 else day :=
  Date.of?_eq_some_iff.1 h

theorem placed?_isSome {day month year : Nat} (h : Occurs day month) (hpos : 1 ≤ year)
    (hle : year ≤ 9999) : ∃ d, placed? day month year = some d := by
  obtain ⟨other, hday, hlen⟩ := h
  have hfits : 1 ≤ (if day = 29 ∧ month = 2 ∧ isLeap year = false then 28 else day) ∧
      (if day = 29 ∧ month = 2 ∧ isLeap year = false then 28 else day) ≤
        daysInMonth year month := by
    by_cases hfeb : month = 2
    · subst hfeb
      have hlen' : day ≤ 29 := by
        simp only [daysInMonth, if_true] at hlen
        split_ifs at hlen <;> omega
      cases hleap : isLeap year
      · simp only [daysInMonth, hleap, and_self, and_true, if_true, Bool.false_eq_true, if_false]
        split_ifs <;> omega
      · simp [daysInMonth, hleap, hday, hlen']
    · have hsame : daysInMonth year month = daysInMonth other month := by
        simp [daysInMonth, hfeb]
      simp [hfeb, hday, hsame, hlen]
  refine ⟨⟨year, month, _, hpos, hle, hfits.1, hfits.2⟩, ?_⟩
  simp only [placed?, Date.of?]
  rw [dif_pos ⟨hpos, hle, hfits⟩]

theorem occurs_of_placed? {day month year : Nat} {d : Date}
    (h : placed? day month year = some d) : Occurs day month := by
  obtain ⟨hyear, hmonth, hday⟩ := eq_of_placed? h
  have hpos := d.day_pos
  have hle := d.day_le
  rw [hyear, hmonth] at hle
  by_cases hc : day = 29 ∧ month = 2 ∧ isLeap year = false
  · obtain ⟨rfl, rfl, -⟩ := hc
    exact ⟨4, by decide, by decide⟩
  · rw [if_neg hc] at hday
    rw [hday] at hpos hle
    exact ⟨year, hpos, hle⟩

/-- From one year to the next a place moves by a year and at most a day more. -/
theorem placed?_succ_le {day month year : Nat} {a b : Date}
    (ha : placed? day month year = some a) (hb : placed? day month (year + 1) = some b) :
    b.ordinal ≤ a.ordinal + 366 := by
  obtain ⟨hya, hma, hda⟩ := eq_of_placed? ha
  obtain ⟨hyb, hmb, hdb⟩ := eq_of_placed? hb
  have hyear := daysBeforeYear_succ (hya ▸ a.year_pos)
  -- Two years in a row are not both leap years.
  have hleap : isLeap year = true → isLeap (year + 1) = false := by
    simp only [isLeap, Bool.and_eq_true, beq_iff_eq, Bool.and_eq_false_iff, beq_eq_false_iff_ne]
    omega
  simp only [Date.ordinal, hya, hyb, hma, hmb, hda, hdb, hyear, daysBeforeMonth_eq year month,
    daysBeforeMonth_eq (year + 1) month, daysInYear]
  cases h : isLeap year <;> cases h' : isLeap (year + 1) <;> simp [h, h'] at hleap ⊢ <;>
    split_ifs <;> omega

theorem place?_eq_placed? {p : DatePhrase} (hdot : p.isDotless = false) {year : Nat}
    (hyear : 1000 ≤ year) : p.place? year = placed? p.day p.month year := by
  simp [place?, dateIn?, date?, placed?, hdot, hyear]

/-- A place that is on time in its year is the earliest one from that year on. -/
theorem isLeast_upcoming {p : DatePhrase} {now : Moment} {d : Date}
    (hd : d ∈ p.upcoming now) (hbefore : ∀ year a, now.date.year ≤ year → year < d.year →
      placed? p.day p.month year = some a → (now.midnightOf a).instant < now.instant) :
    IsLeast (p.upcoming now) d := by
  refine ⟨hd, ?_⟩
  rintro a ⟨year, hyear, ha, hontime⟩
  obtain ⟨year', -, hd', -⟩ := hd
  have hya := (eq_of_placed? ha).1
  have hyd := (eq_of_placed? hd').1
  rcases Nat.lt_trichotomy year d.year with hlt | heq | hlt
  · have := hbefore year a hyear hlt ha
    omega
  · obtain rfl : year = year' := heq.trans hyd
    obtain rfl : a = d := Option.some.inj (ha.symm.trans hd')
    exact Nat.le_refl _
  · exact Nat.le_of_lt (Date.ordinal_lt_of_year_lt (hya ▸ hlt))

/-- A phrase without a year denotes its earliest upcoming place, which is at most 366 days away. -/
theorem resolve?_yearless {p : DatePhrase} {now : Moment} (hyear : p.year = none)
    (hdot : p.isDotless = false) (hlow : 1000 ≤ now.date.year) (hhigh : now.date.year ≤ 9998)
    (hoccurs : Occurs p.day p.month) :
    ∃ d, p.resolve? now = some d ∧ IsLeast (p.upcoming now) d ∧
      d.ordinal ≤ now.date.ordinal + 366 := by
  obtain ⟨a, ha⟩ : ∃ a, placed? p.day p.month now.date.year = some a :=
    placed?_isSome hoccurs (by omega) (by omega)
  obtain ⟨b, hb⟩ : ∃ b, placed? p.day p.month (now.date.year + 1) = some b :=
    placed?_isSome hoccurs (by omega) (by omega)
  have hya := (eq_of_placed? ha).1
  have hyb := (eq_of_placed? hb).1
  have hresolve : p.resolve? now = if now.isAfterMidnightOf a then some b else some a := by
    simp only [resolve?, hyear, place?_eq_placed? hdot hlow, ha,
      place?_eq_placed? hdot (Nat.le_succ_of_le hlow), hb]
  by_cases hafter : now.isAfterMidnightOf a
  · refine ⟨b, by rw [hresolve, if_pos hafter], isLeast_upcoming ?_ ?_, ?_⟩
    · have hlater : now.date.ordinal < b.ordinal := Date.ordinal_lt_of_year_lt (by omega)
      have hontime : ¬ now.isAfterMidnightOf b := by
        rintro (hlt | ⟨heq, -⟩)
        · exact absurd hlater (Nat.lt_asymm hlt)
        · exact absurd hlater (heq ▸ Nat.lt_irrefl _)
      rw [Moment.isAfterMidnightOf_iff, Int.not_lt] at hontime
      exact ⟨now.date.year + 1, Nat.le_succ _, hb, hontime⟩
    · intro year c hle hlt hc
      obtain rfl : year = now.date.year := by omega
      obtain rfl : a = c := Option.some.inj (ha.symm.trans hc)
      exact (Moment.isAfterMidnightOf_iff _ _).1 hafter
    · have hstep := placed?_succ_le ha hb
      have hpast : a.ordinal ≤ now.date.ordinal := by
        rcases hafter with hlt | ⟨heq, -⟩
        · exact Nat.le_of_lt hlt
        · exact heq ▸ Nat.le_refl _
      omega
  · refine ⟨a, by rw [hresolve, if_neg hafter], isLeast_upcoming ?_ ?_, ?_⟩
    · rw [Moment.isAfterMidnightOf_iff, Int.not_lt] at hafter
      exact ⟨now.date.year, Nat.le_refl _, ha, hafter⟩
    · intro year c hle hlt _
      omega
    · exact Date.ordinal_le_of_year_eq hya

theorem resolve?_impossible {p : DatePhrase} {now : Moment} (hyear : p.year = none)
    (hdot : p.isDotless = false) (hlow : 1000 ≤ now.date.year)
    (hoccurs : ¬ Occurs p.day p.month) : p.resolve? now = none := by
  have hnone : placed? p.day p.month now.date.year = none :=
    Option.eq_none_iff_forall_ne_some.2 fun d hd => hoccurs (occurs_of_placed? hd)
  simp only [resolve?, hyear, place?_eq_placed? hdot hlow, hnone]

end DatePhrase

open DatePhrase

/-- A text whose first phrase has no year denotes the earliest upcoming place of its day, at most
366 days away; if no year has that day, it denotes the day of the moment. -/
theorem resolveDate_yearless {text : Text} {p : DatePhrase} {now : Moment}
    (hfind : DatePhrase.find? text = some p) (hyear : p.year = none)
    (hdot : p.isDotless = false) (hlow : 1000 ≤ now.date.year) (hhigh : now.date.year ≤ 9998) :
    (Occurs p.day p.month →
      IsLeast (p.upcoming now) (resolveDate (some text) now).value ∧
        (resolveDate (some text) now).value.ordinal ≤ now.date.ordinal + 366) ∧
    (¬ Occurs p.day p.month → (resolveDate (some text) now).value = now.date) := by
  constructor
  · intro hoccurs
    obtain ⟨d, hd, hleast, hnear⟩ := resolve?_yearless hyear hdot hlow hhigh hoccurs
    have hvalue : (resolveDate (some text) now).value = d := by
      simp [resolveDate, hfind, hd]
    rw [hvalue]
    exact ⟨hleast, hnear⟩
  · intro hoccurs
    have hnone := resolve?_impossible hyear hdot hlow hoccurs
    simp [resolveDate, hfind, hnone, Logged.withEvent]

/-- Noon on 28 February 2023 at UTC, when 28 February of that year is past and the next leap day is
366 days away. -/
def leapDayEve : Moment :=
  ⟨⟨2023, 2, 28, by decide, by decide, by decide, by decide⟩,
    { TimeOfDay.midnight with hour := 12, hour_lt := by decide }, some .utc⟩

theorem resolveDate_yearless_leapDayEve :
    DatePhrase.find? "by the 29th of February" = some ⟨29, 2, false, none⟩ ∧
      1000 ≤ leapDayEve.date.year ∧ leapDayEve.date.year ≤ 9998 ∧
      IsLeast (DatePhrase.upcoming ⟨29, 2, false, none⟩ leapDayEve)
        (resolveDate (some ("by the 29th of February" : Text)) leapDayEve).value ∧
      (resolveDate (some ("by the 29th of February" : Text)) leapDayEve).value.ordinal ≤
        leapDayEve.date.ordinal + 366 := by
  have hfind : DatePhrase.find? "by the 29th of February" = some ⟨29, 2, false, none⟩ := by
    decide +kernel
  have hlow : 1000 ≤ leapDayEve.date.year := by decide
  have hhigh : leapDayEve.date.year ≤ 9998 := by decide
  have hoccurs : Occurs 29 2 := ⟨4, by decide, by decide⟩
  exact ⟨hfind, hlow, hhigh, (resolveDate_yearless hfind rfl rfl hlow hhigh).1 hoccurs⟩

end SchemaQuery
