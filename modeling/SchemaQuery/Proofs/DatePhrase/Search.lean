import SchemaQuery.Proofs.DatePhrase.Grammar

/-!
# The first phrase of a text

A text is searched for the first position at which a phrase begins. What is found there does not
hang on the text around it: in front, only digits can bring a phrase that begins earlier, and behind
the month, only a year is looked for.
-/

namespace SchemaQuery

namespace DatePhrase

variable {text lead t : Text} {i j : Nat} {p : DatePhrase} {o : Occurrence} {c : CodePoint}

theorem find?_eq_some_iff : find? text = some p ↔
    ∃ i, atStart? (text.drop i) = some p ∧ ∀ j < i, atStart? (text.drop j) = none := by
  induction text with
  | nil => simp [find?, atStart?, day?]
  | cons c t ih =>
    cases hstart : atStart? (c :: t) with
    | some q =>
      rw [find?, hstart, Option.orElse_some, Option.some.injEq]
      constructor
      · rintro rfl
        exact ⟨0, hstart, fun j hj => absurd hj (Nat.not_lt_zero j)⟩
      · rintro ⟨i, hi, hfirst⟩
        cases i with
        | zero => exact Option.some.inj (hstart.symm.trans hi)
        | succ i =>
          have hnone := hfirst 0 (Nat.succ_pos i)
          rw [List.drop_zero, hstart] at hnone
          cases hnone
    | none =>
      rw [find?, hstart, Option.orElse_none, ih]
      constructor
      · rintro ⟨i, hi, hfirst⟩
        refine ⟨i + 1, hi, fun j hj => ?_⟩
        cases j with
        | zero => exact hstart
        | succ j => exact hfirst j (Nat.lt_of_succ_lt_succ hj)
      · rintro ⟨i, hi, hfirst⟩
        cases i with
        | zero =>
          rw [List.drop_zero, hstart] at hi
          cases hi
        | succ i => exact ⟨i, hi, fun j hj => hfirst (j + 1) (Nat.succ_lt_succ hj)⟩

theorem find?_eq_none_iff : find? text = none ↔ ∀ i, atStart? (text.drop i) = none := by
  induction text with
  | nil => simp [find?, atStart?, day?]
  | cons c t ih =>
    have hsplit : find? (c :: t) = none ↔ atStart? (c :: t) = none ∧ find? t = none := by
      rw [find?]
      cases atStart? (c :: t) <;> simp
    rw [hsplit, ih]
    constructor
    · rintro ⟨hstart, hnone⟩ i
      cases i with
      | zero => exact hstart
      | succ i => exact hnone i
    · intro h
      exact ⟨h 0, fun i => h (i + 1)⟩

/-- A phrase begins at a position, and none begins before it. -/
structure IsFirst (text : Text) (i : Nat) (o : Occurrence) : Prop where
  begins : Begins (text.drop i) o
  first : ∀ j < i, ∀ o', ¬ Begins (text.drop j) o'

theorem IsFirst.find?_eq (h : IsFirst text i o) : find? text = some o.phrase :=
  find?_eq_some_iff.2 ⟨i, h.begins.atStart?_eq, fun j hj => atStart?_eq_none_iff.2 (h.first j hj)⟩

theorem exists_isFirst (h : find? text = some p) : ∃ i o, IsFirst text i o ∧ p = o.phrase := by
  obtain ⟨i, hi, hfirst⟩ := find?_eq_some_iff.1 h
  obtain ⟨o, ho, rfl⟩ := exists_begins hi
  exact ⟨i, o, ⟨ho, fun j hj => atStart?_eq_none_iff.1 (hfirst j hj)⟩, rfl⟩

theorem find?_eq_none_iff_begins : find? text = none ↔ ∀ i o, ¬ Begins (text.drop i) o := by
  rw [find?_eq_none_iff]
  exact forall_congr' fun i => atStart?_eq_none_iff

/-! ### What stands around a phrase -/

theorem atStart?_cons_of_no_digit (h : c.decimalDigit? = none) (t : Text) :
    atStart? (c :: t) = none := by
  simp [atStart?, day?, h]

/-- Text without digits in front does not matter. -/
theorem find?_append (h : ∀ c ∈ lead, c.decimalDigit? = none) (t : Text) :
    find? (lead ++ t) = find? t := by
  induction lead with
  | nil => rfl
  | cons c lead ih =>
    rw [List.forall_mem_cons] at h
    rw [List.cons_append, find?, atStart?_cons_of_no_digit h.1, Option.orElse_none, ih h.2]

theorem Begins.replace (h : Begins t o) (other : Text) :
    Begins { o with after := other }.text { o with after := other } :=
  ⟨rfl, h.isDay, h.isEnding, h.isBlanks, h.isParticle, h.isMonth⟩

theorem IsDay.length_le {digits : Text} {n : Nat} (h : IsDay digits n) : digits.length ≤ 2 := by
  cases h <;> simp

theorem IsDay.exists_cons {digits : Text} {n : Nat} (h : IsDay digits n) :
    ∃ d rest, digits = d :: rest ∧ d.decimalDigit?.isSome := by
  cases h with
  | one ha => exact ⟨_, _, rfl, Option.isSome_of_eq_some ha⟩
  | two ha hb => exact ⟨_, _, rfl, Option.isSome_of_eq_some ha⟩

theorem Begins.lt_length (h : Begins (text.drop i) o) : i < text.length := by
  have hne : text.drop i ≠ [] := by
    obtain ⟨d, digits, hdigits, -⟩ := h.isDay.exists_cons
    rw [h.eq, Occurrence.text, hdigits]
    exact List.cons_ne_nil _ _
  exact Nat.lt_of_not_le (List.drop_eq_nil_iff.not.1 hne)

/-- A phrase that begins in front of a digit ends there, or the digit is the second one of its day.
-/
theorem Begins.cases_of_digit {s : Text} {d : CodePoint} (h : Begins (s ++ d :: t) o) (hs : s ≠ [])
    (hd : d.decimalDigit?.isSome) : (∃ rest, s = o.digits ++ (o.behindDay ++ rest)) ∨
      ∃ a, s = [a] ∧ o.digits = [a, d] ∧ t = o.behindDay ++ o.after := by
  have hbehind : d ∉ o.behindDay := by
    intro hmem
    rw [h.decimalDigit?_eq_none hmem] at hd
    cases hd
  have heq := h.eq
  rw [Occurrence.text] at heq
  rcases List.append_eq_append_iff.1 heq with ⟨x, hx, hrest⟩ | ⟨x, rfl, hrest⟩
  · cases x with
    | nil =>
      cases hparts : o.behindDay with
      | nil => exact absurd hparts h.behindDay_ne_nil
      | cons e behind =>
        rw [hparts] at hrest hbehind
        cases hrest
        exact absurd List.mem_cons_self hbehind
    | cons e x =>
      cases hrest
      have hlength := h.isDay.length_le
      right
      cases s with
      | nil => exact absurd rfl hs
      | cons a s =>
        simp only [hx, List.length_append, List.length_cons] at hlength
        obtain rfl : s = [] := List.eq_nil_of_length_eq_zero (by omega)
        obtain rfl : x = [] := List.eq_nil_of_length_eq_zero (by omega)
        exact ⟨a, rfl, hx, rfl⟩
  · left
    rcases List.append_eq_append_iff.1 hrest with ⟨y, rfl, -⟩ | ⟨y, hparts, hafter⟩
    · exact ⟨y, rfl⟩
    · cases y with
      | nil => exact ⟨[], by rw [hparts, List.append_nil, List.append_nil]⟩
      | cons e y =>
        cases hafter
        rw [hparts] at hbehind
        exact absurd (List.mem_append_right _ List.mem_cons_self) hbehind

/-- Whether a phrase begins further in front does not hang on what stands behind a phrase. -/
theorem Begins.exists_of_replaced {s other : Text} {o' : Occurrence} (h : Begins t o) (hs : s ≠ [])
    (h' : Begins (s ++ { o with after := other }.text) o') : ∃ o'', Begins (s ++ t) o'' := by
  have hreplaced := h.replace other
  obtain ⟨d, digits, hdigits, hd⟩ := h.isDay.exists_cons
  obtain ⟨rest, heq⟩ : ∃ rest, { o with after := other }.text = d :: rest := by
    simp [Occurrence.text, hdigits]
  rw [heq] at h' hreplaced
  rcases h'.cases_of_digit hs hd with ⟨between, rfl⟩ | ⟨a, rfl, htwo, hrest⟩
  · refine ⟨{ o' with after := between ++ t }, ?_, h'.isDay, h'.isEnding, h'.isBlanks,
      h'.isParticle, h'.isMonth⟩
    simp [Occurrence.text, Occurrence.behindDay]
  · -- The digit is the day of a phrase of its own, which can only be the one that is there.
    obtain ⟨n, hn⟩ := Option.isSome_iff_exists.1 hd
    have hinner : Begins (d :: rest) { o' with digits := [d], day := n } :=
      ⟨by rw [hrest]; rfl, .one hn, h'.isEnding, h'.isBlanks, h'.isParticle, h'.isMonth⟩
    have hsame := hreplaced.unique hinner
    simp only [Occurrence.mk.injEq] at hsame
    obtain ⟨hday, hending, hblanks, hparticle, hname, -, -, hmonth⟩ := hsame
    refine ⟨{ o' with after := o.after }, ?_, h'.isDay, h'.isEnding, h'.isBlanks, h'.isParticle,
      h'.isMonth⟩
    rw [h.eq]
    simp [Occurrence.text, Occurrence.behindDay, htwo, hday, hending, hblanks, hparticle, hname]

theorem IsFirst.replace (h : IsFirst text i o) (other : Text) :
    IsFirst (text.take i ++ { o with after := other }.text) i { o with after := other } := by
  have hlength : (text.take i).length = i := by
    rw [List.length_take, Nat.min_eq_left (Nat.le_of_lt h.begins.lt_length)]
  constructor
  · rw [List.drop_left' hlength]
    exact h.begins.replace other
  · intro j hj o' ho'
    rw [List.drop_append_of_le_length (by omega)] at ho'
    have hne : (text.take i).drop j ≠ [] := by
      rw [Ne, List.drop_eq_nil_iff]
      omega
    obtain ⟨o'', ho''⟩ := h.begins.exists_of_replaced hne ho'
    rw [← List.drop_append_of_le_length (by omega), List.take_append_drop] at ho''
    exact h.first j hj o'' ho''

/-! ### The date of a text -/

theorem resolveDate_value (text : Option Text) (now : Moment) : (resolveDate text now).value =
    ((find? (text.getD [])).bind (·.resolve? now)).getD now.date := by
  unfold resolveDate
  cases find? (text.getD []) with
  | none => rfl
  | some p => cases hp : p.resolve? now <;> simp [hp, Logged.withEvent]

theorem resolveDate_congr {s : Text} (h : find? s = find? text) (now : Moment) :
    (resolveDate (some s) now).value = (resolveDate (some text) now).value := by
  simp only [resolveDate_value, Option.getD_some, h]

theorem resolveDate_of_find? (h : find? text = some p) (now : Moment) :
    (resolveDate (some text) now).value = (p.resolve? now).getD now.date := by
  rw [resolveDate_value, Option.getD_some, h, Option.bind_some]

theorem resolveDate_of_find?_eq_none (h : find? text = none) (now : Moment) :
    (resolveDate (some text) now).value = now.date := by
  rw [resolveDate_value, Option.getD_some, h]
  rfl

end DatePhrase

open DatePhrase

/-- A phrase is found in a text exactly when the parts of one begin at some position, which they do
in one way at most. The first position at which they begin says what is found, and the year is there
exactly when blanks and four digits follow the month. So text without digits in front does not
matter, nor what follows the month but for the year, and a text without a phrase denotes the day of
the moment. -/
theorem resolveDate_reads_first (text : Text) (now : Moment) :
    ((∃ p, DatePhrase.find? text = some p) ↔ ∃ i o, Begins (text.drop i) o) ∧
    (∀ i o o', Begins (text.drop i) o → Begins (text.drop i) o' → o = o') ∧
    (∀ i o, IsFirst text i o →
      (∃ p, DatePhrase.find? text = some p ∧ p.day = o.day ∧ p.month = o.month ∧
        p.isDotless = o.name.contains (.scalar 'ı') ∧
        (∀ year, p.year = some year ↔ StatesYear o.after year) ∧
        (resolveDate (some text) now).value = (p.resolve? now).getD now.date) ∧
      ∀ other, (∀ year, StatesYear other year ↔ StatesYear o.after year) →
        (resolveDate (some (text.take i ++ { o with after := other }.text)) now).value =
          (resolveDate (some text) now).value) ∧
    (∀ lead, (∀ c ∈ lead, c.decimalDigit? = none) →
      (resolveDate (some (lead ++ text)) now).value = (resolveDate (some text) now).value) ∧
    ((∀ i o, ¬ Begins (text.drop i) o) → (resolveDate (some text) now).value = now.date) := by
  refine ⟨?_, fun i o o' h h' => h.unique h', fun i o h => ⟨?_, fun other hother => ?_⟩,
    fun lead hlead => ?_, fun hnone => ?_⟩
  · rw [← Option.isSome_iff_exists, Option.isSome_iff_ne_none, Ne, find?_eq_none_iff_begins]
    simp only [not_forall, Classical.not_not]
  · exact ⟨o.phrase, h.find?_eq, rfl, rfl, rfl, fun year => year?_eq_some_iff,
      resolveDate_of_find? h.find?_eq now⟩
  · have hyear : year? other = year? o.after :=
      Option.ext fun year => year?_eq_some_iff.trans ((hother year).trans year?_eq_some_iff.symm)
    apply resolveDate_congr
    rw [(h.replace other).find?_eq, h.find?_eq]
    simp only [Occurrence.phrase, hyear]
  · exact resolveDate_congr (find?_append hlead text) now
  · exact resolveDate_of_find?_eq_none (find?_eq_none_iff_begins.2 hnone) now

/-- A text with a number that is no day in front of a phrase. -/
def roomNote : Text := "12 or 1st of JULY 2024 at noon"

def firstOfJuly : Occurrence := ⟨"1", "st", " ", "of ", "JULY", " 2024 at noon", 1, 7⟩

theorem resolveDate_reads_first_july :
    IsFirst roomNote 6 firstOfJuly ∧
      (∀ year, StatesYear " 2024." year ↔ StatesYear firstOfJuly.after year) ∧
      (∃ p, DatePhrase.find? roomNote = some p ∧ p.day = 1 ∧ p.month = 7 ∧ p.isDotless = false ∧
        (∀ year, p.year = some year ↔ StatesYear " 2024 at noon" year) ∧
        (resolveDate (some roomNote) default).value = (p.resolve? default).getD Date.first) ∧
      (resolveDate (some ("12 or 1st of JULY 2024." : Text)) default).value =
        (resolveDate (some roomNote) default).value ∧
      (resolveDate (some ("the week of " ++ roomNote : Text)) default).value =
        (resolveDate (some roomNote) default).value := by
  have hfirst : IsFirst roomNote 6 firstOfJuly := by
    have hnone : ∀ j < 6, atStart? (roomNote.drop j) = none := by decide +kernel
    have hst : word? "st".toList "st" = some (Text.ofString "st", []) := by decide +kernel
    have hof : word? ['o', 'f'] "of" = some (Text.ofString "of", []) := by decide +kernel
    have hjuly : word? "july".toList "JULY" = some (Text.ofString "JULY", []) := by decide +kernel
    have hmonth : ("july", 7) ∈ monthNames.zipIdx 1 := by decide +kernel
    have hblank : IsBlanks " " := ⟨by decide +kernel, by decide +kernel⟩
    refine ⟨⟨by decide +kernel, .one (by decide +kernel),
      .spelled (List.mem_cons_self (a := "st")) (of_word? hst).2, hblank,
      .spelled (of_word? hof).2 hblank, .spelled hmonth (of_word? hjuly).2⟩, ?_⟩
    exact fun j hj => atStart?_eq_none_iff.1 (hnone j hj)
  have hyear : ∀ year, StatesYear " 2024." year ↔ StatesYear firstOfJuly.after year := by
    have hsame : year? " 2024." = year? firstOfJuly.after := by decide +kernel
    intro year
    rw [← year?_eq_some_iff, ← year?_eq_some_iff, hsame]
  have hlead : ∀ c ∈ ("the week of " : Text), c.decimalDigit? = none := by decide +kernel
  obtain ⟨-, -, hreads, hbefore, -⟩ := resolveDate_reads_first roomNote default
  obtain ⟨hfound, hafter⟩ := hreads 6 firstOfJuly hfirst
  exact ⟨hfirst, hyear, hfound, hafter " 2024." hyear, hbefore "the week of " hlead⟩

end SchemaQuery
