import Mathlib.Order.Bounds.Basic
import SchemaQuery.Proofs.DatePhrase.Monotone

/-!
# Phrases that stand for themselves

The search takes the first place at which the parts of a phrase stand, also when a number, a word or
a year goes on around them, and also when no calendar has the day. A reader would take the first
phrase that is cut off on both sides and is a day of the calendar. For texts in ASCII with years of
four digits, the two come to the same date at all moments exactly when they come to the same phrase,
since no two phrases denote the same days and none denotes every day on that day.
-/

namespace SchemaQuery

open Calendar

namespace DatePhrase

variable {p q : DatePhrase} {now : Moment} {d e : Date}

/-! ### Days of the calendar -/

/-- What a phrase denotes at a moment: with a year that day of the calendar, without one the
earliest of its places to come. -/
inductive Denotes (p : DatePhrase) (now : Moment) : Date → Prop
  | dated {year : Nat} {d : Date} : p.year = some year → Date.of? year p.month p.day = some d →
    Denotes p now d
  | next {d : Date} : p.year = none → IsLeast (p.upcoming now) d → Denotes p now d

/-- The calendar has the day, in the year of the phrase or, without one, in some year. -/
inductive IsReal (p : DatePhrase) : Prop
  | dated {year : Nat} {d : Date} : p.year = some year → Date.of? year p.month p.day = some d →
    IsReal p
  | yearless : p.year = none → Occurs p.day p.month → IsReal p

/-- The phrase names its month, and its year, if it has one, is no earlier than 1000. -/
structure IsPlain (p : DatePhrase) : Prop where
  named : p.isDotless = false
  year : ∀ year ∈ p.year, 1000 ≤ year

theorem IsPlain.dateIn? (hp : p.IsPlain) {year : Nat} (hyear : p.year = some year) :
    p.dateIn? p.day year = Date.of? year p.month p.day := by
  simp [DatePhrase.dateIn?, date?, hp.named, hp.year year hyear]

theorem IsPlain.exists_denotes (hp : p.IsPlain) (hreal : p.IsReal) (hlow : 1000 ≤ now.date.year)
    (hhigh : now.date.year ≤ 9998) : ∃ d, p.resolve? now = some d ∧ p.Denotes now d := by
  cases hreal with
  | @dated year d hyear hd =>
    refine ⟨d, ?_, .dated hyear hd⟩
    rw [resolve?_of_year hyear, hp.dateIn? hyear, hd]
  | yearless hyear hoccurs =>
    obtain ⟨d, hd, hleast, -⟩ := resolve?_yearless hyear hp.named hlow hhigh hoccurs
    exact ⟨d, hd, .next hyear hleast⟩

theorem IsPlain.resolve?_eq_none (hp : p.IsPlain) (hreal : ¬ p.IsReal)
    (hlow : 1000 ≤ now.date.year) : p.resolve? now = none := by
  cases hyear : p.year with
  | some year =>
    rw [resolve?_of_year hyear, hp.dateIn? hyear, Option.eq_none_iff_forall_ne_some]
    intro d hd
    exact hreal (.dated hyear hd)
  | none =>
    have hoccurs : ¬ Occurs p.day p.month := fun hoccurs => hreal (.yearless hyear hoccurs)
    exact resolve?_impossible hyear hp.named hlow hoccurs

/-! ### Phrases told apart by what they denote -/

theorem Denotes.month_eq (h : p.Denotes now d) : d.month = p.month := by
  cases h with
  | dated _ hd => exact (Date.of?_eq_some_iff.1 hd).2.1
  | next _ hleast => exact (eq_of_placed? (mem_upcoming_iff.1 hleast.1).1).2.1

theorem one_le_daysInMonth_one (year : Nat) : 1 ≤ daysInMonth year 1 := by
  simp [daysInMonth]

/-- The midnight at which a year begins. -/
def newYear (year : Nat) (hpos : 1 ≤ year) (hle : year ≤ 9999) : Moment :=
  .ofDate ⟨year, 1, 1, hpos, hle, Date.first.day_pos, one_le_daysInMonth_one year⟩

theorem newYear_le {year : Nat} (hpos : 1 ≤ year) (hle : year ≤ 9999) (h : d.year = year) :
    (newYear year hpos hle).date ≤ d := by
  have hmonth := (month_le_of_day d.day_pos d.day_le).1
  refine Date.le_iff.2 (.inr ⟨h.symm, ?_⟩)
  rcases Nat.eq_or_lt_of_le hmonth with heq | hlt
  · exact .inr ⟨heq, d.day_pos⟩
  · exact .inl hlt

/-- When a year begins, a phrase without a year denotes its place in that year. -/
theorem Denotes.placed? {year : Nat} {hpos : 1 ≤ year} {hle : year ≤ 9999} (hyear : p.year = none)
    (h : p.Denotes (newYear year hpos hle) d) : placed? p.day p.month year = some d := by
  cases h with
  | dated hdated =>
    rw [hyear] at hdated
    cases hdated
  | next _ hleast =>
    obtain ⟨other, hother, hd, -⟩ := hleast.1
    obtain ⟨e, he⟩ := placed?_isSome (occurs_of_placed? hd) hpos hle
    have heyear := (eq_of_placed? he).1
    have hmem : e ∈ p.upcoming (newYear year hpos hle) := by
      refine mem_upcoming_iff.2 ⟨heyear.symm ▸ he, ?_⟩
      rw [newYear, Moment.wall_ofDate, Moment.wall_ofDate]
      exact Nat.mul_le_mul_right _ (newYear_le hpos hle heyear)
    have hsame : other = year := by
      have hbefore := Date.year_le_of_le (hleast.2 hmem)
      rw [(eq_of_placed? hd).1, heyear] at hbefore
      exact Nat.le_antisymm hbefore hother
    exact hsame ▸ hd

theorem Denotes.of_dated {year : Nat} (hyear : p.year = some year) (h : p.Denotes now d) :
    d.year = year ∧ d.day = p.day := by
  cases h with
  | dated hdated hd =>
    rw [hyear] at hdated
    cases hdated
    obtain ⟨hyear, -, hday⟩ := Date.of?_eq_some_iff.1 hd
    exact ⟨hyear, hday⟩
  | next hnone =>
    rw [hyear] at hnone
    cases hnone

/-- When a leap year begins, a phrase without a year denotes that year's day of its number. -/
theorem Denotes.of_yearless {year : Nat} {hpos : 1 ≤ year} {hle : year ≤ 9999}
    (hyear : p.year = none)
    (hleap : isLeap year = true) (h : p.Denotes (newYear year hpos hle) d) :
    d.year = year ∧ d.day = p.day := by
  obtain ⟨hplace, -, hday⟩ := eq_of_placed? (h.placed? hyear)
  exact ⟨hplace, by simpa [hleap] using hday⟩

/-- Phrases that denote the same day at all moments say the same. -/
theorem eq_of_denotes (hdot : p.isDotless = q.isDotless)
    (h : ∀ now : Moment, 1000 ≤ now.date.year → now.date.year ≤ 9998 →
      ∃ d, p.Denotes now d ∧ q.Denotes now d) : p = q := by
  -- Two years have to be looked at: in one alone a phrase with that year is like one without.
  obtain ⟨d, hp, hq⟩ := h (newYear 2024 (by decide) (by decide)) (by decide) (by decide)
  obtain ⟨e, hp', hq'⟩ := h (newYear 2028 (by decide) (by decide)) (by decide) (by decide)
  have hmonth : p.month = q.month := hp.month_eq.symm.trans hq.month_eq
  have hboth : p.year = q.year ∧ p.day = q.day := by
    cases hyear : p.year with
    | some year =>
      obtain ⟨hd, hday⟩ := hp.of_dated hyear
      obtain ⟨he, -⟩ := hp'.of_dated hyear
      cases hother : q.year with
      | some other =>
        obtain ⟨hd', hday'⟩ := hq.of_dated hother
        exact ⟨by rw [← hd, hd'], hday.symm.trans hday'⟩
      | none =>
        obtain ⟨hd', -⟩ := hq.of_yearless hother rfl
        obtain ⟨he', -⟩ := hq'.of_yearless hother rfl
        omega
    | none =>
      obtain ⟨hd, hday⟩ := hp.of_yearless hyear rfl
      obtain ⟨he, -⟩ := hp'.of_yearless hyear rfl
      cases hother : q.year with
      | some other =>
        obtain ⟨hd', -⟩ := hq.of_dated hother
        obtain ⟨he', -⟩ := hq'.of_dated hother
        omega
      | none =>
        obtain ⟨-, hday'⟩ := hq.of_yearless hother rfl
        exact ⟨rfl, hday.symm.trans hday'⟩
  obtain ⟨day, month, isDotless, year⟩ := p
  obtain ⟨day', month', isDotless', year'⟩ := q
  obtain ⟨rfl, rfl⟩ := hboth
  obtain rfl : month = month' := hmonth
  obtain rfl : isDotless = isDotless' := hdot
  rfl

/-- No phrase denotes each day on that day: it names one month. -/
theorem exists_not_denotes (p : DatePhrase) : ∃ now : Moment, 1000 ≤ now.date.year ∧
    now.date.year ≤ 9998 ∧ ¬ p.Denotes now now.date := by
  by_cases hjanuary : p.month = 1
  · refine ⟨leapDayEve, by decide, by decide, fun h => ?_⟩
    have hmonth := h.month_eq
    rw [hjanuary] at hmonth
    cases hmonth
  · refine ⟨newYear 2024 (by decide) (by decide), by decide, by decide, fun h => ?_⟩
    exact hjanuary h.month_eq.symm

/-! ### What a text is taken to say -/

/-- A date is what one of the phrases denotes at a moment, and the day of the moment if there is no
phrase. -/
def Follows (phrases : DatePhrase → Prop) (now : Moment) (d : Date) : Prop :=
  (∀ p, phrases p → p.Denotes now d) ∧ ((∀ p, ¬ phrases p) → d = now.date)

theorem mem_of_follows {P Q : DatePhrase → Prop} {date : Moment → Date}
    (hP : ∀ now : Moment, 1000 ≤ now.date.year → now.date.year ≤ 9998 → Follows P now (date now))
    (hQ : ∀ now : Moment, 1000 ≤ now.date.year → now.date.year ≤ 9998 → Follows Q now (date now))
    (hdot : ∀ p q, P p → Q q → p.isDotless = q.isDotless) (hp : P p) : Q p := by
  by_cases hsome : ∃ q, Q q
  · obtain ⟨q, hq⟩ := hsome
    have heq : p = q := eq_of_denotes (hdot p q hp hq) fun now hlow hhigh =>
      ⟨date now, (hP now hlow hhigh).1 p hp, (hQ now hlow hhigh).1 q hq⟩
    exact heq ▸ hq
  · obtain ⟨now, hlow, hhigh, hnot⟩ := exists_not_denotes p
    have htoday := (hQ now hlow hhigh).2 fun q hq => hsome ⟨q, hq⟩
    exact absurd (htoday ▸ (hP now hlow hhigh).1 p hp) hnot

variable {text : Text} {i : Nat} {o : Occurrence}

/-- The search finds this phrase, and it is a day of the calendar. -/
inductive IsFound (text : Text) : DatePhrase → Prop
  | first {i : Nat} {o : Occurrence} : IsFirst text i o → o.phrase.IsReal → IsFound text o.phrase

/-- The parts of a phrase begin at a position, and neither a digit in front of the day, nor a letter
behind the month, nor a digit behind the year goes on with them. -/
structure IsComplete (text : Text) (i : Nat) (o : Occurrence) : Prop where
  begins : Begins (text.drop i) o
  day : ∀ c ∈ (text.take i).getLast?, c.decimalDigit? = none
  month : ∀ c ∈ o.after.head?, c.is Char.isAlpha = false
  year {blanks digits rest : Text} : o.after = blanks ++ (digits ++ rest) → IsBlanks blanks →
    digits.length = 4 → (∀ d ∈ digits, d.isDecimalDigit = true) →
    ∀ c ∈ rest.head?, c.decimalDigit? = none

/-- The phrase is the first one in the text that stands for itself and is a day of the calendar. -/
inductive IsMeant (text : Text) : DatePhrase → Prop
  | first {i : Nat} {o : Occurrence} : IsComplete text i o → o.phrase.IsReal →
    (∀ j < i, ∀ o', IsComplete text j o' → ¬ o'.phrase.IsReal) → IsMeant text o.phrase

theorem exists_isMeant (h : IsComplete text i o) (hreal : o.phrase.IsReal) :
    ∃ p, IsMeant text p := by
  induction i using Nat.strongRecOn generalizing o with
  | ind i ih =>
    by_cases hearlier : ∃ j < i, ∃ o', IsComplete text j o' ∧ o'.phrase.IsReal
    · obtain ⟨j, hj, o', ho', hreal'⟩ := hearlier
      exact ih j hj ho' hreal'
    · refine ⟨_, .first h hreal fun j hj o' ho' hreal' => hearlier ⟨j, hj, o', ho', hreal'⟩⟩

section Ascii

variable (hascii : ∀ c ∈ text, c.value < 128)
  (hyears : ∀ i o year, Begins (text.drop i) o → StatesYear o.after year → 1000 ≤ year)

include hascii hyears

theorem isPlain_of_begins (h : Begins (text.drop i) o) : o.phrase.IsPlain := by
  constructor
  · apply Occurrence.isDotless_phrase
    intro c hc
    have htext : c ∈ text := by
      apply List.mem_of_mem_drop (i := i)
      rw [h.eq]
      simp [Occurrence.text, Occurrence.behindDay, hc]
    exact hascii c htext
  · intro year hyear
    exact hyears i o year h (year?_eq_some_iff.1 hyear)

theorem follows_isFound (hlow : 1000 ≤ now.date.year) (hhigh : now.date.year ≤ 9998) :
    Follows (IsFound text) now (resolveDate (some text) now).value := by
  constructor
  · intro p hp
    cases hp with
    | first hfirst hreal =>
      obtain ⟨d, hd, hdenotes⟩ :=
        (isPlain_of_begins hascii hyears hfirst.begins).exists_denotes hreal hlow hhigh
      rwa [resolveDate_of_find? hfirst.find?_eq, hd]
  · intro hnone
    cases hfind : DatePhrase.find? text with
    | none => exact resolveDate_of_find?_eq_none hfind now
    | some p =>
      obtain ⟨i, o, hfirst, rfl⟩ := exists_isFirst hfind
      have hreal : ¬ o.phrase.IsReal := fun hreal => hnone _ (.first hfirst hreal)
      rw [resolveDate_of_find? hfind,
        (isPlain_of_begins hascii hyears hfirst.begins).resolve?_eq_none hreal hlow]
      rfl

end Ascii

theorem le_of_statesYear (h : ∀ i < text.length, ∀ p ∈ atStart? (text.drop i), ∀ year ∈ p.year,
    1000 ≤ year) {i : Nat} {o : Occurrence} {year : Nat} (ho : Begins (text.drop i) o)
    (hyear : StatesYear o.after year) : 1000 ≤ year :=
  h i ho.lt_length _ ho.atStart?_eq _ (year?_eq_some_iff.2 hyear)

end DatePhrase

open DatePhrase

/-- A text in ASCII denotes what the phrase that is found denotes, and the day of the moment if none
is found that is a day of the calendar. At all moments this is what is meant exactly when the phrase
that is found is the one that is meant. -/
theorem resolveDate_follows_isMeant_iff {text : Text} (hascii : ∀ c ∈ text, c.value < 128)
    (hyears : ∀ i o year, Begins (text.drop i) o → StatesYear o.after year → 1000 ≤ year) :
    ((∃ p, IsMeant text p) ↔ ∃ i o, IsComplete text i o ∧ o.phrase.IsReal) ∧
    (∀ now : Moment, 1000 ≤ now.date.year → now.date.year ≤ 9998 →
      Follows (IsFound text) now (resolveDate (some text) now).value) ∧
    ((∀ now : Moment, 1000 ≤ now.date.year → now.date.year ≤ 9998 →
        Follows (IsMeant text) now (resolveDate (some text) now).value) ↔
      ∀ p, IsFound text p ↔ IsMeant text p) := by
  have hfound (now : Moment) (hlow : 1000 ≤ now.date.year) (hhigh : now.date.year ≤ 9998) :=
    follows_isFound hascii hyears hlow hhigh
  have hdot (p q : DatePhrase) : IsFound text p → IsMeant text q → p.isDotless = q.isDotless := by
    rintro ⟨hfirst, -⟩ ⟨hcomplete, -, -⟩
    rw [(isPlain_of_begins hascii hyears hfirst.begins).named,
      (isPlain_of_begins hascii hyears hcomplete.begins).named]
  refine ⟨⟨?_, ?_⟩, hfound, fun hmeant p => ⟨?_, ?_⟩, fun h now hlow hhigh => ?_⟩
  · rintro ⟨_, hcomplete, hreal, -⟩
    exact ⟨_, _, hcomplete, hreal⟩
  · rintro ⟨i, o, hcomplete, hreal⟩
    exact exists_isMeant hcomplete hreal
  · exact mem_of_follows hfound hmeant hdot
  · exact mem_of_follows hmeant hfound fun p q hp hq => (hdot q p hq hp).symm
  · have hsame : IsFound text = IsMeant text := funext fun p => propext (h p)
    exact hsame ▸ hfound now hlow hhigh

/-- A month stands in this text, but only as a part of a word. -/
def mayors : Text := "5 mayors"

/-- The phrase that is found there. -/
def fifthOfMay : Occurrence := ⟨"5", "", " ", "", "may", "ors", 5, 5⟩

theorem begins_fifthOfMay : Begins mayors fifthOfMay := by
  have hmay : word? "may".toList "may" = some (Text.ofString "may", []) := by decide +kernel
  have hmonth : ("may", 5) ∈ monthNames.zipIdx 1 := by decide +kernel
  exact ⟨by decide +kernel, .one (by decide +kernel), .absent,
    ⟨by decide +kernel, by decide +kernel⟩, .absent, .spelled hmonth (of_word? hmay).2⟩

/-- What is found is a day of the calendar, and yet nothing is meant. -/
theorem resolveDate_follows_isMeant_iff_mayors :
    (∀ c ∈ mayors, c.value < 128) ∧
      (∀ i o year, Begins (mayors.drop i) o → StatesYear o.after year → 1000 ≤ year) ∧
      IsFound mayors fifthOfMay.phrase ∧ (∀ p, ¬ IsMeant mayors p) ∧
      ¬ ∀ now : Moment, 1000 ≤ now.date.year → now.date.year ≤ 9998 →
        Follows (IsMeant mayors) now (resolveDate (some mayors) now).value := by
  have hascii : ∀ c ∈ mayors, c.value < 128 := by decide +kernel
  have hyears (i : Nat) (o : Occurrence) (year : Nat) (ho : Begins (mayors.drop i) o)
      (hyear : StatesYear o.after year) : 1000 ≤ year :=
    le_of_statesYear (by decide +kernel) ho hyear
  have hfound : IsFound mayors fifthOfMay.phrase :=
    .first (i := 0) ⟨begins_fifthOfMay, fun j hj => absurd hj (Nat.not_lt_zero j)⟩
      (.yearless (by decide +kernel) ⟨1, by decide, by decide⟩)
  have hrest : DatePhrase.find? (mayors.drop 1) = none := by decide +kernel
  have hmeant (p : DatePhrase) : ¬ IsMeant mayors p := by
    rintro @⟨i, o, hcomplete, -, -⟩
    cases i with
    | zero =>
      -- The letter behind the month goes on with it.
      have hletter := hcomplete.month
      rw [hcomplete.begins.unique begins_fifthOfMay] at hletter
      exact absurd (hletter (.scalar 'o') rfl) (by decide)
    | succ i =>
      have hbegins := hcomplete.begins
      rw [Nat.add_comm, ← List.drop_drop] at hbegins
      exact find?_eq_none_iff_begins.1 hrest i o hbegins
  refine ⟨hascii, hyears, hfound, hmeant, fun h => ?_⟩
  exact hmeant _ (((resolveDate_follows_isMeant_iff hascii hyears).2.2.1 h _).1 hfound)

/-- A day that no calendar has stands in front of one that it has. -/
def juneOrJuly : Text := "not 31 June but 5 July"

/-- The second phrase there. -/
def fifthOfJuly : Occurrence := ⟨"5", "", " ", "", "July", "", 5, 7⟩

theorem isMeant_fifthOfJuly : IsMeant juneOrJuly fifthOfJuly.phrase := by
  have hjuly : word? "july".toList "July" = some (Text.ofString "July", []) := by decide +kernel
  have hmonth : ("july", 7) ∈ monthNames.zipIdx 1 := by decide +kernel
  have hbegins : Begins (juneOrJuly.drop 16) fifthOfJuly :=
    ⟨by decide +kernel, .one (by decide +kernel), .absent,
      ⟨by decide +kernel, by decide +kernel⟩, .absent, .spelled hmonth (of_word? hjuly).2⟩
  have hcomplete : IsComplete juneOrJuly 16 fifthOfJuly := by
    refine ⟨hbegins, by decide +kernel, by decide +kernel, fun h _ hlength => ?_⟩
    -- Nothing stands behind the month.
    simp [fifthOfJuly, Text.ofString] at h
    simp [h] at hlength
  refine .first hcomplete (.yearless (by decide +kernel) ⟨1, by decide, by decide⟩) ?_
  intro j hj o ho hreal
  have hstart : ∀ j < 16, j = 4 ∨ j = 5 ∨ atStart? (juneOrJuly.drop j) = none := by decide +kernel
  rcases hstart j hj with rfl | rfl | hnone
  · have hphrase : atStart? (juneOrJuly.drop 4) = some ⟨31, 6, false, none⟩ := by decide +kernel
    rw [ho.begins.atStart?_eq, Option.some.injEq] at hphrase
    rw [hphrase] at hreal
    cases hreal with
    | dated hyear => cases hyear
    | yearless _ hoccurs =>
      obtain ⟨year, -, hday⟩ := hoccurs
      simp [daysInMonth] at hday
  · exact absurd (ho.day (.scalar '3') (by decide +kernel)) (by decide +kernel)
  · exact atStart?_eq_none_iff.1 hnone o ho.begins

theorem not_follows_isMeant_juneOrJuly :
    IsMeant juneOrJuly fifthOfJuly.phrase ∧
      (resolveDate (some juneOrJuly) (newYear 2024 (by decide) (by decide))).value =
        (newYear 2024 (by decide) (by decide)).date ∧
      ¬ Follows (IsMeant juneOrJuly) (newYear 2024 (by decide) (by decide))
        (resolveDate (some juneOrJuly) (newYear 2024 (by decide) (by decide))).value := by
  have htoday : (resolveDate (some juneOrJuly) (newYear 2024 (by decide) (by decide))).value =
      (newYear 2024 (by decide) (by decide)).date := by
    decide +kernel
  refine ⟨isMeant_fifthOfJuly, htoday, fun h => ?_⟩
  have hmonth := (h.1 _ isMeant_fifthOfJuly).month_eq
  rw [htoday] at hmonth
  cases hmonth

end SchemaQuery
