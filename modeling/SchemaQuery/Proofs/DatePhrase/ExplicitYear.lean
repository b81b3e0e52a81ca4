import SchemaQuery.Proofs.DatePhrase.Monotone

/-!
# Phrases with a year

A year of four digits is taken as it stands, so that a phrase with one from 1000 on denotes its own
day or none. Earlier years lose the zeros they are written with, and what is left of them is a short
year or none at all: a number of two digits is moved into the years from 1969 to 2068, and next to a
day that no month has a number that could be a day changes places with it. The main statement says
which years are read as they are written.
-/

namespace SchemaQuery

open Calendar

namespace DatePhrase

/-! ### Short years -/

theorem pivotYear_ge (n : Nat) : 1900 ≤ pivotYear n := by
  unfold pivotYear
  split <;> omega

/-- Moved by whole centuries, a year of two digits remains a leap year or none. -/
theorem isLeap_pivotYear {year : Nat} (hlow : 10 ≤ year) (hhigh : year ≤ 99) :
    isLeap (pivotYear year) = isLeap year := by
  have hfour : pivotYear year % 4 = year % 4 := by
    unfold pivotYear
    split <;> omega
  have hhundred : pivotYear year % 100 ≠ 0 := by
    unfold pivotYear
    split <;> omega
  have hyear : year % 100 ≠ 0 := by omega
  rw [isLeap, isLeap, hfour, bne_iff_ne.2 hhundred, bne_iff_ne.2 hyear, Bool.true_or, Bool.true_or]

theorem daysInMonth_pivotYear {year : Nat} (hlow : 10 ≤ year) (hhigh : year ≤ 99) (month : Nat) :
    daysInMonth (pivotYear year) month = daysInMonth year month := by
  simp [daysInMonth, isLeap_pivotYear hlow hhigh]

/-- The dates that a day, a month and a year are taken for. -/
inductive IsTakenFor (day month year : Nat) : Date → Prop
  /-- Four digits that do not begin with a zero are the year. -/
  | written {d : Date} : 1000 ≤ year → Date.of? year month day = some d →
    IsTakenFor day month year d
  | short {d : Date} : day ≤ 31 → 10 ≤ year → year ≤ 99 →
    Date.of? (pivotYear year) month day = some d → IsTakenFor day month year d
  /-- What can be no day is the year, and the year is the day. -/
  | swapped {d : Date} : 32 ≤ day → 1 ≤ year → year ≤ 31 →
    Date.of? (pivotYear day) month year = some d → IsTakenFor day month year d

variable {day month year : Nat} {d : Date}

/-- No month has more than 31 days. -/
theorem date_of?_eq_none (h : 32 ≤ day) : Date.of? year month day = none := by
  rw [Option.eq_none_iff_forall_ne_some]
  intro d hd
  have hday := (Date.of?_eq_some_iff.1 hd).2.2
  have hle := Nat.le_trans d.day_le (daysInMonth_le d.year d.month)
  omega

theorem date?_eq_some_iff : date? day month year = some d ↔ IsTakenFor day month year d := by
  unfold date?
  constructor
  · intro h
    split at h
    · rename_i hfour
      exact .written hfour h
    · split at h
      · rename_i hswap
        exact .swapped hswap.1 hswap.2.1 hswap.2.2 h
      · split at h
        · rename_i hnot hshort
          have hday : day ≤ 31 := by
            apply Nat.le_of_lt_succ
            apply Nat.lt_of_not_le
            intro hlarge
            rw [date_of?_eq_none hlarge] at h
            cases h
          exact .short hday hshort.1 hshort.2 h
        · cases h
  · intro h
    cases h with
    | written hfour hd => rwa [if_pos hfour]
    | short hday hlow hhigh hd =>
      rwa [if_neg (by omega), if_neg (by omega), if_pos ⟨hlow, hhigh⟩]
    | swapped hday hlow hhigh hd =>
      rwa [if_neg (by omega), if_pos ⟨hday, hlow, hhigh⟩]

/-- An earlier year is never taken for itself. -/
theorem IsTakenFor.year_ge (h : IsTakenFor day month year d) : 1000 ≤ d.year := by
  have hpivot (n : Nat) : 1000 ≤ pivotYear n := Nat.le_trans (by decide) (pivotYear_ge n)
  cases h with
  | written hfour hd => rwa [(Date.of?_eq_some_iff.1 hd).1]
  | short _ _ _ hd =>
    rw [(Date.of?_eq_some_iff.1 hd).1]
    exact hpivot year
  | swapped _ _ _ hd =>
    rw [(Date.of?_eq_some_iff.1 hd).1]
    exact hpivot day

/-- The day can be none, and the year is a day of the month in the year that the day is taken
for. -/
structure IsSwapped (day month year : Nat) : Prop where
  day_ge : 32 ≤ day
  year_pos : 1 ≤ year
  year_le : year ≤ daysInMonth (pivotYear day) month

theorem IsSwapped.exists_isTakenFor (h : IsSwapped day month year) (hday : day ≤ 99) :
    ∃ d, IsTakenFor day month year d := by
  have hyear : year ≤ 31 := Nat.le_trans h.year_le (daysInMonth_le _ month)
  have hlow : 1 ≤ pivotYear day := Nat.le_trans (by decide) (pivotYear_ge day)
  have hhigh : pivotYear day ≤ 9999 := by
    unfold pivotYear
    split <;> omega
  have hself := Date.of?_self ⟨pivotYear day, month, year, hlow, hhigh, h.year_pos, h.year_le⟩
  exact ⟨_, .swapped h.day_ge h.year_pos hyear hself⟩

/-- A day that no calendar has is taken for one only by a change of places. -/
theorem IsTakenFor.isSwapped (h : IsTakenFor day month year d)
    (hnone : Date.of? year month day = none) : IsSwapped day month year := by
  cases h with
  | written hfour hd =>
    rw [hnone] at hd
    cases hd
  | short hday hlow hhigh hd =>
    obtain ⟨hyear, hmonth, hsame⟩ := Date.of?_eq_some_iff.1 hd
    have hpos := d.day_pos
    have hle := d.day_le
    rw [hsame] at hpos
    rw [hyear, hmonth, hsame, daysInMonth_pivotYear hlow hhigh] at hle
    have hself := Date.of?_self ⟨year, month, day, Nat.le_trans (by decide) hlow,
      Nat.le_trans hhigh (by decide), hpos, hle⟩
    rw [hnone] at hself
    cases hself
  | swapped hday hlow hhigh hd =>
    obtain ⟨hyear, hmonth, hsame⟩ := Date.of?_eq_some_iff.1 hd
    have hle := d.day_le
    rw [hyear, hmonth, hsame] at hle
    exact ⟨hday, hlow, hle⟩

/-! ### Texts whose first phrase has a year -/

theorem IsDay.le {digits : Text} {n : Nat} (h : IsDay digits n) : n ≤ 99 := by
  cases h with
  | one ha =>
    have := CodePoint.decimalDigit?_lt ha
    omega
  | two ha hb =>
    have := CodePoint.decimalDigit?_lt ha
    have := CodePoint.decimalDigit?_lt hb
    omega

variable {text : Text} {i : Nat} {o : Occurrence}

section Stated

variable (hfirst : IsFirst text i o) (hyear : StatesYear o.after year)
  (hname : ∀ c ∈ o.name, c.value < 128)

include hfirst hyear hname

theorem resolveDate_value_of_year (now : Moment) :
    (resolveDate (some text) now).value = (date? o.day o.month year).getD now.date := by
  have hphrase : o.phrase.year = some year := year?_eq_some_iff.2 hyear
  have hdot : o.phrase.isDotless = false := Occurrence.isDotless_phrase hname
  rw [resolveDate_of_find? hfirst.find?_eq, resolve?_of_year hphrase, dateIn?, hdot]
  rfl

theorem resolveDate_of_isTakenFor (hd : IsTakenFor o.day o.month year d) (now : Moment) :
    (resolveDate (some text) now).value = d := by
  rw [resolveDate_value_of_year hfirst hyear hname, date?_eq_some_iff.2 hd, Option.getD_some]

theorem resolveDate_of_forall_not (hnone : ∀ d, ¬ IsTakenFor o.day o.month year d) (now : Moment) :
    (resolveDate (some text) now).value = now.date := by
  have hdate : date? o.day o.month year = none :=
    Option.eq_none_iff_forall_ne_some.2 fun d hd => hnone d (date?_eq_some_iff.1 hd)
  rw [resolveDate_value_of_year hfirst hyear hname, hdate, Option.getD_none]

theorem le_year_resolveDate {now : Moment} (hnow : 1000 ≤ now.date.year) :
    1000 ≤ (resolveDate (some text) now).value.year := by
  rw [resolveDate_value_of_year hfirst hyear hname]
  cases htaken : date? o.day o.month year with
  | none => exact hnow
  | some d => exact (date?_eq_some_iff.1 htaken).year_ge

/-- A day before the year 1000 that the calendar has is denoted at no moment from then on. -/
theorem date_of?_eq_none_of_asWritten (hearly : year < 1000)
    (hwritten : ∀ now, (resolveDate (some text) now).value =
      (Date.of? year o.month o.day).getD now.date) :
    Date.of? year o.month o.day = none := by
  rw [Option.eq_none_iff_forall_ne_some]
  intro d hd
  have hlate : 1000 ≤ (resolveDate (some text) leapDayEve).value.year :=
    le_year_resolveDate hfirst hyear hname (by decide)
  rw [hwritten, hd, Option.getD_some, (Date.of?_eq_some_iff.1 hd).1] at hlate
  exact absurd hlate (Nat.not_le_of_lt hearly)

/-- A date that does not change with the moment is not the day of each moment. -/
theorem not_isTakenFor_of_today (htoday : ∀ now, (resolveDate (some text) now).value = now.date) :
    ¬ IsTakenFor o.day o.month year d := by
  intro hd
  have hdate (now : Moment) : d = now.date :=
    (resolveDate_of_isTakenFor hfirst hyear hname hd now).symm.trans (htoday now)
  exact absurd ((hdate default).symm.trans (hdate leapDayEve)) (by decide)

end Stated

end DatePhrase

open DatePhrase

/-- A text whose first phrase has a year denotes the date that day, month and year are taken for,
and the day of the moment if they are taken for none. This is the day as it is written, wherever the
calendar has it, exactly when the year is no earlier than 1000, or the calendar does not have the
day and day and year do not change places. -/
theorem resolveDate_asWritten_iff {text : Text} {i : Nat} {o : Occurrence} {year : Nat}
    (hfirst : IsFirst text i o) (hyear : StatesYear o.after year)
    (hname : ∀ c ∈ o.name, c.value < 128) :
    (∀ now d, IsTakenFor o.day o.month year d → (resolveDate (some text) now).value = d) ∧
    (∀ now, (∀ d, ¬ IsTakenFor o.day o.month year d) →
      (resolveDate (some text) now).value = now.date) ∧
    ((∀ now, (resolveDate (some text) now).value =
        (Date.of? year o.month o.day).getD now.date) ↔
      1000 ≤ year ∨ Date.of? year o.month o.day = none ∧ ¬ IsSwapped o.day o.month year) := by
  refine ⟨fun now d hd => resolveDate_of_isTakenFor hfirst hyear hname hd now,
    fun now hnone => resolveDate_of_forall_not hfirst hyear hname hnone now, ?_, ?_⟩
  · intro hwritten
    rcases Nat.lt_or_ge year 1000 with hearly | hlate
    · have hnone := date_of?_eq_none_of_asWritten hfirst hyear hname hearly hwritten
      simp only [hnone, Option.getD_none] at hwritten
      refine .inr ⟨hnone, fun hswapped => ?_⟩
      obtain ⟨d, hd⟩ := hswapped.exists_isTakenFor hfirst.begins.isDay.le
      exact not_isTakenFor_of_today hfirst hyear hname hwritten hd
    · exact .inl hlate
  · rintro (hlate | ⟨hnone, hplain⟩) now
    · rw [resolveDate_value_of_year hfirst hyear hname, date?, if_pos hlate]
    · rw [hnone, Option.getD_none]
      exact resolveDate_of_forall_not hfirst hyear hname
        (fun d hd => hplain (hd.isSwapped hnone)) now

/-- A day of May and what follows it. -/
def inMay (digits after : Text) (day : Nat) : Occurrence :=
  ⟨digits, "", " ", "", "May", after, day, 5⟩

theorem isFirst_inMay {digits : Text} {day : Nat} (hday : IsDay digits day) (after : Text) :
    IsFirst (inMay digits after day).text 0 (inMay digits after day) := by
  have hmay : word? "may".toList "May" = some (Text.ofString "May", []) := by decide +kernel
  have hmonth : ("may", 5) ∈ monthNames.zipIdx 1 := by decide +kernel
  have hblanks : IsBlanks " " := ⟨by decide +kernel, by decide +kernel⟩
  exact ⟨⟨rfl, hday, .absent, hblanks, .absent, .spelled hmonth (of_word? hmay).2⟩,
    fun j hj => absurd hj (Nat.not_lt_zero j)⟩

/-- The year 12 becomes the day and the day the year 2045, whenever it is asked for. -/
theorem resolveDate_asWritten_iff_inMay :
    IsFirst "45 May 0012" 0 (inMay "45" " 0012" 45) ∧ StatesYear " 0012" 12 ∧
      (∀ c ∈ ("May" : Text), c.value < 128) ∧
      (∃ d : Date, d.year = 2045 ∧ d.day = 12 ∧
        ∀ now, (resolveDate (some ("45 May 0012" : Text)) now).value = d) ∧
      ¬ ∀ now, (resolveDate (some ("45 May 0012" : Text)) now).value =
        (Date.of? 12 5 45).getD now.date := by
  have hdigits : IsDay "45" 45 := .two (m := 4) (n := 5) (by decide +kernel) (by decide +kernel)
  have hfirst : IsFirst "45 May 0012" 0 (inMay "45" " 0012" 45) := isFirst_inMay hdigits " 0012"
  have hyear : StatesYear " 0012" 12 := year?_eq_some_iff.1 (by decide +kernel)
  have hname : ∀ c ∈ ("May" : Text), c.value < 128 := by decide +kernel
  have hswapped : IsSwapped 45 5 12 := ⟨by decide, by decide, by decide⟩
  obtain ⟨d, hd⟩ : ∃ d, Date.of? (pivotYear 45) 5 12 = some d := ⟨_, rfl⟩
  obtain ⟨hdyear, -, hday⟩ := Date.of?_eq_some_iff.1 hd
  obtain ⟨htaken, -, hiff⟩ := resolveDate_asWritten_iff hfirst hyear hname
  refine ⟨hfirst, hyear, hname, ⟨d, hdyear, hday, fun now => htaken now d ?_⟩, fun hwritten => ?_⟩
  · exact .swapped (by decide) (by decide) (by decide) hd
  · rcases hiff.1 hwritten with hlate | ⟨-, hplain⟩
    · exact absurd hlate (by decide)
    · exact hplain hswapped

/-- The calendar has the fifth of May of the year 45, and a text that states it denotes another
day. -/
theorem resolveDate_ne_asWritten_inMay :
    IsFirst "5 May 0045" 0 (inMay "5" " 0045" 5) ∧ StatesYear " 0045" 45 ∧
      (Date.of? 45 5 5).isSome ∧
      some (resolveDate (some ("5 May 0045" : Text)) leapDayEve).value ≠ Date.of? 45 5 5 ∧
      (resolveDate (some ("5 May 0045" : Text)) leapDayEve).value.year = 2045 := by
  have hdigit : IsDay "5" 5 := .one (by decide +kernel)
  exact ⟨isFirst_inMay hdigit " 0045", year?_eq_some_iff.1 (by decide +kernel), by decide +kernel,
    by decide +kernel, by decide +kernel⟩

end SchemaQuery
