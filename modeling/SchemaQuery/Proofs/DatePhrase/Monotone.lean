import Mathlib.Data.Set.Basic
import SchemaQuery.Proofs.Calendar.Ordinal
import SchemaQuery.Proofs.DatePhrase.NextOccurrence
import SchemaQuery.Proofs.DatePhrase.Search

/-!
# Dates of one text at different moments

As time goes on, the date that a text denotes never goes back, and at the midnight of that date the
text still denotes it. A phrase without a year denotes the earliest of its places to come. The later
the moment, the fewer places are to come, and the ones that have dropped out lie before it. When
none is left, which happens only in the last year of the calendar, the day of the moment takes over;
it has passed the places that dropped out.
-/

namespace SchemaQuery

namespace DatePhrase

variable {p : DatePhrase} {now later : Moment} {d e : Date}

/-- A place is to come when its midnight does not lie before the moment. -/
theorem mem_upcoming_iff : d ∈ p.upcoming now ↔
    placed? p.day p.month d.year = some d ∧ now.wall ≤ (Moment.ofDate d).wall := by
  constructor
  · rintro ⟨year, -, hplace, hontime⟩
    obtain rfl := (eq_of_placed? hplace).1
    exact ⟨hplace, (now.instant_le_midnightOf_iff d).1 hontime⟩
  · rintro ⟨hplace, hontime⟩
    have hyear : now.date.year ≤ d.year :=
      Date.year_le_of_le (Moment.date_le_of_wall_le (b := .ofDate d) hontime)
    exact ⟨d.year, hyear, hplace, (now.instant_le_midnightOf_iff d).2 hontime⟩

/-- What a phrase without a year denotes: its earliest place to come, or if none is to come, the day
of the moment. -/
inductive Meets (p : DatePhrase) (now : Moment) : Date → Prop
  | next {d : Date} : IsLeast (p.upcoming now) d → Meets p now d
  | today : p.upcoming now = ∅ → Meets p now now.date

theorem meets_resolve? (hyear : p.year = none) (hdot : p.isDotless = false)
    (hlow : 1000 ≤ now.date.year) : p.Meets now ((p.resolve? now).getD now.date) := by
  by_cases hoccurs : Occurs p.day p.month
  · by_cases hhigh : now.date.year ≤ 9998
    · obtain ⟨d, hd, hleast, -⟩ := resolve?_yearless hyear hdot hlow hhigh hoccurs
      rw [hd]
      exact .next hleast
    · -- There is no year behind this one.
      have hlast : now.date.year = 9999 := by
        have := now.date.year_le
        omega
      obtain ⟨d, hd⟩ := placed?_isSome hoccurs (by omega) now.date.year_le
      have hdyear := (eq_of_placed? hd).1
      have hnext : p.place? (now.date.year + 1) = none := by
        rw [place?_eq_placed? hdot (by omega), Option.eq_none_iff_forall_ne_some]
        intro e he
        have hle := e.year_le
        rw [(eq_of_placed? he).1] at hle
        omega
      have hresolve : p.resolve? now = if now.isAfterMidnightOf d then none else some d := by
        simp only [resolve?, hyear, place?_eq_placed? hdot hlow, hd, hnext]
      rw [hresolve]
      split
      · rename_i hafter
        refine .today (Set.eq_empty_iff_forall_notMem.2 ?_)
        rintro e ⟨year, hle, he, hontime⟩
        have heyear := (eq_of_placed? he).1
        have hmax := e.year_le
        obtain rfl : year = now.date.year := by omega
        obtain rfl : d = e := Option.some.inj (hd.symm.trans he)
        rw [Moment.isAfterMidnightOf_iff] at hafter
        omega
      · rename_i hafter
        rw [Moment.isAfterMidnightOf_iff, Int.not_lt] at hafter
        refine .next (isLeast_upcoming ⟨now.date.year, Nat.le_refl _, hd, hafter⟩ ?_)
        intro year a hle hlt _
        rw [Option.getD_some, hdyear] at hlt
        omega
  · rw [resolve?_impossible hyear hdot hlow hoccurs]
    refine .today (Set.eq_empty_iff_forall_notMem.2 ?_)
    rintro e ⟨year, -, he, -⟩
    exact hoccurs (occurs_of_placed? he)

theorem Meets.date_le (h : p.Meets now d) : now.date ≤ d := by
  cases h with
  | next hleast => exact Moment.date_le_of_wall_le (b := .ofDate d) (mem_upcoming_iff.1 hleast.1).2
  | today => exact Nat.le_refl _

/-- A place to come at an earlier moment only has passed at the later one. -/
theorem le_date_of_not_upcoming (hd : d ∈ p.upcoming now) (hlater : d ∉ p.upcoming later) :
    d ≤ later.date := by
  have hplace := (mem_upcoming_iff.1 hd).1
  have hpast : (Moment.ofDate d).wall ≤ later.wall := by
    apply Nat.le_of_not_le
    intro hontime
    exact hlater (mem_upcoming_iff.2 ⟨hplace, hontime⟩)
  exact Moment.date_le_of_wall_le (a := .ofDate d) hpast

theorem Meets.mono (hd : p.Meets now d) (he : p.Meets later e) (hle : now.wall ≤ later.wall) :
    d ≤ e := by
  have hsubset : p.upcoming later ⊆ p.upcoming now := by
    intro a ha
    obtain ⟨hplace, hontime⟩ := mem_upcoming_iff.1 ha
    exact mem_upcoming_iff.2 ⟨hplace, Nat.le_trans hle hontime⟩
  cases hd with
  | next hleast =>
    cases he with
    | next hleast' => exact hleast.2 (hsubset hleast'.1)
    | today hempty =>
      have hgone : d ∉ p.upcoming later := by
        rw [hempty]
        exact Set.notMem_empty d
      exact le_date_of_not_upcoming hleast.1 hgone
  | today hempty =>
    cases he with
    | next hleast' =>
      have hmem := hsubset hleast'.1
      rw [hempty] at hmem
      exact absurd hmem (Set.notMem_empty e)
    | today => exact Moment.date_le_of_wall_le hle

/-- On the day that a phrase denotes it denotes that day. -/
theorem Meets.settled (hd : p.Meets now d) (he : p.Meets (.ofDate d) e) : e = d := by
  have hle : d ≤ e := he.date_le
  refine Date.le_antisymm ?_ hle
  cases hd with
  | next hleast =>
    have hmem : d ∈ p.upcoming (.ofDate d) :=
      mem_upcoming_iff.2 ⟨(mem_upcoming_iff.1 hleast.1).1, Nat.le_refl _⟩
    cases he with
    | next hleast' => exact hleast'.2 hmem
    | today hempty =>
      rw [hempty] at hmem
      exact absurd hmem (Set.notMem_empty d)
  | today hempty =>
    cases he with
    | next hleast' =>
      have hgone : e ∉ p.upcoming now := by
        rw [hempty]
        exact Set.notMem_empty e
      exact le_date_of_not_upcoming hleast'.1 hgone
    | today => exact Nat.le_refl _

theorem resolve?_of_year {year : Nat} (h : p.year = some year) (now : Moment) :
    p.resolve? now = p.dateIn? p.day year := by
  simp only [resolve?, h]

theorem resolve?_of_isDotless (hyear : p.year = none) (hdot : p.isDotless = true) (now : Moment) :
    p.resolve? now = none := by
  simp only [resolve?, hyear, place?, dateIn?, hdot, if_true]

/-- How the date of a text hangs on the moment. -/
inductive Depends (text : Option Text) : Prop
  /-- There is a year, and the day is one of the calendar. -/
  | onNothing {p : DatePhrase} {year : Nat} {d : Date} : find? (text.getD []) = some p →
    p.year = some year → (∀ now, (resolveDate text now).value = d) → Depends text
  /-- There is no phrase, or it names no day at all. -/
  | onTheDay : (∀ now, (resolveDate text now).value = now.date) → Depends text
  | onTheMoment {p : DatePhrase} :
    (∀ now, 1000 ≤ now.date.year → p.Meets now (resolveDate text now).value) → Depends text

theorem depends (text : Option Text) : Depends text := by
  cases hfind : find? (text.getD []) with
  | none =>
    refine .onTheDay fun now => ?_
    rw [resolveDate_value, hfind]
    rfl
  | some p =>
    have hvalue (now : Moment) : (resolveDate text now).value = (p.resolve? now).getD now.date := by
      rw [resolveDate_value, hfind, Option.bind_some]
    cases hyear : p.year with
    | some year =>
      simp only [resolve?_of_year hyear] at hvalue
      cases hdate : p.dateIn? p.day year with
      | some d =>
        simp only [hdate, Option.getD_some] at hvalue
        exact .onNothing hfind hyear hvalue
      | none =>
        simp only [hdate, Option.getD_none] at hvalue
        exact .onTheDay hvalue
    | none =>
      cases hdot : p.isDotless with
      | true =>
        simp only [resolve?_of_isDotless hyear hdot, Option.getD_none] at hvalue
        exact .onTheDay hvalue
      | false =>
        refine .onTheMoment (p := p) fun now hlow => ?_
        rw [hvalue]
        exact meets_resolve? hyear hdot hlow

end DatePhrase

open DatePhrase

/-- The later the moment, the later the date of a text, or it stays the same. At the date itself,
taken for its midnight, the text still denotes it. Without a year the date is never in the past. -/
theorem resolveDate_mono_settles (text : Option Text) :
    (∀ now later : Moment, 1000 ≤ now.date.year → now.wall ≤ later.wall →
      (resolveDate text now).value ≤ (resolveDate text later).value) ∧
    (∀ now : Moment, 1000 ≤ now.date.year →
      (resolveDate text (.ofDate (resolveDate text now).value)).value =
        (resolveDate text now).value) ∧
    (∀ now : Moment, 1000 ≤ now.date.year →
      (∀ p, DatePhrase.find? (text.getD []) = some p → p.year = none) →
      now.date ≤ (resolveDate text now).value) := by
  cases depends text with
  | onNothing hfind hyear hvalue =>
    refine ⟨fun now later _ _ => ?_, fun now _ => ?_, fun now _ hnone => ?_⟩
    · rw [hvalue, hvalue]
      exact Nat.le_refl _
    · rw [hvalue, hvalue]
    · rw [hnone _ hfind] at hyear
      cases hyear
  | onTheDay hvalue =>
    refine ⟨fun now later _ hle => ?_, fun now _ => ?_, fun now _ _ => ?_⟩
    · rw [hvalue, hvalue]
      exact Moment.date_le_of_wall_le hle
    · rw [hvalue, hvalue]
      rfl
    · rw [hvalue]
      exact Nat.le_refl _
  | onTheMoment hmeets =>
    refine ⟨fun now later hlow hle => ?_, fun now hlow => ?_, fun now hlow _ => ?_⟩
    · have hlater := Date.year_le_of_le (Moment.date_le_of_wall_le hle)
      exact (hmeets now hlow).mono (hmeets later (Nat.le_trans hlow hlater)) hle
    · have hlater := Date.year_le_of_le (hmeets now hlow).date_le
      exact (hmeets now hlow).settled (hmeets _ (Nat.le_trans hlow hlater))
    · exact (hmeets now hlow).date_le

/-- A day of the last May that there is, at noon two hours east. -/
def lastMayNoon (day : Nat) (hpos : 1 ≤ day) (hle : day ≤ 31) : Moment :=
  ⟨⟨9999, 5, day, Date.last.year_pos, Date.last.year_le, hpos, hle⟩, leapDayEve.time,
    some ⟨7200000000, by decide, by decide⟩⟩

/-- The first of May has passed for good, and the date goes on with the moment. -/
theorem resolveDate_mono_settles_lastMay :
    (lastMayNoon 1 (by decide) (by decide)).wall ≤ (lastMayNoon 2 (by decide) (by decide)).wall ∧
      (∀ p, DatePhrase.find? "by 1 May" = some p → p.year = none) ∧
      (resolveDate (some ("by 1 May" : Text)) (lastMayNoon 1 (by decide) (by decide))).value ≤
        (resolveDate (some ("by 1 May" : Text)) (lastMayNoon 2 (by decide) (by decide))).value ∧
      (lastMayNoon 2 (by decide) (by decide)).date ≤
        (resolveDate (some ("by 1 May" : Text)) (lastMayNoon 2 (by decide) (by decide))).value := by
  have hwall : (lastMayNoon 1 (by decide) (by decide)).wall ≤
      (lastMayNoon 2 (by decide) (by decide)).wall := by
    decide +kernel
  have hfind : DatePhrase.find? "by 1 May" = some ⟨1, 5, false, none⟩ := by decide +kernel
  have hyear : ∀ p, DatePhrase.find? "by 1 May" = some p → p.year = none := by
    intro p hp
    rw [hfind] at hp
    cases hp
    rfl
  obtain ⟨hmono, -, hfuture⟩ := resolveDate_mono_settles (some ("by 1 May" : Text))
  exact ⟨hwall, hyear, hmono _ _ (by decide) hwall, hfuture _ (by decide) hyear⟩

end SchemaQuery
