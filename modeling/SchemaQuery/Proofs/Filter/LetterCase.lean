import SchemaQuery.Proofs.DatePhrase.LetterCase
import SchemaQuery.Proofs.DatePhrase.NextOccurrence
import SchemaQuery.Proofs.Filter.Leaf

/-!
# Letter case in date filters

The date in the text of a filter does not hang on the case of its letters. The words that ask for a
week are looked for as they are spelled, so texts that differ in case alone have the same leaf
exactly when both have these words or neither has. Otherwise one of them asks for the week from the
day on that the other one asks for.
-/

namespace SchemaQuery

namespace FilterSpec

variable {f : FilterSpec} {s t : Text}

theorem leaf_withText_upcoming (hdate : f.filterType = "date") (hoperator : f.operator = nextWeek)
    (now : Moment) (s t : Text) :
    ((f.withText s).leaf now).value = ((f.withText t).leaf now).value := by
  rw [leaf_of_date (f := f.withText s) hdate, dateLeaf_upcoming (f := f.withText s) hoperator,
    leaf_of_date (f := f.withText t) hdate, dateLeaf_upcoming (f := f.withText t) hoperator]
  rfl

section SameLetters

variable (hletters : s.map CodePoint.asciiLower = t.map CodePoint.asciiLower)

include hletters

theorem eq_nil_iff_of_sameLetters : s = [] ↔ t = [] := by
  rw [← List.map_eq_nil_iff (f := CodePoint.asciiLower), hletters, List.map_eq_nil_iff]

/-- Where both texts ask for a week or neither does, they ask for the same. -/
theorem leaf_withText_eq (hdate : f.filterType = "date")
    (hweek : Text.includes weekOf s = Text.includes weekOf t) (now : Moment) :
    ((f.withText s).leaf now).value = ((f.withText t).leaf now).value := by
  have hresolve := resolveDate_eq_of_sameLetters hletters now
  by_cases hoperator : f.operator = nextWeek
  · exact leaf_withText_upcoming hdate hoperator now s t
  cases ht : Text.includes weekOf t with
  | true =>
    rw [leaf_withText_week hdate hoperator ht, leaf_withText_week hdate hoperator (hweek.trans ht),
      hresolve]
  | false =>
    by_cases hnil : t = []
    · rw [(eq_nil_iff_of_sameLetters hletters).2 hnil, hnil]
    · have hne : s ≠ [] := mt (eq_nil_iff_of_sameLetters hletters).1 hnil
      rw [leaf_withText_date hdate hoperator ht hnil,
        leaf_withText_date hdate hoperator (hweek.trans ht) hne, hresolve]

/-- A text that asks for a week and one that does not ask for the same day, but not for the same. -/
theorem leaf_withText_of_week (hdate : f.filterType = "date") (hoperator : f.operator ≠ nextWeek)
    (hs : Text.includes weekOf s = true) (ht : Text.includes weekOf t = false) (now : Moment) :
    ((f.withText s).leaf now).value =
        (Week.from? (resolveDate (some t) now).value).map (.inWeek f.property) ∧
      ((f.withText t).leaf now).value =
        some (.onDate f.property f.operator (.date (resolveDate (some t) now).value)) := by
  have hne : t ≠ [] := by
    intro hnil
    rw [(eq_nil_iff_of_sameLetters hletters).2 hnil] at hs
    cases hs
  constructor
  · rw [leaf_withText_week hdate hoperator hs, resolveDate_eq_of_sameLetters hletters]
  · exact leaf_withText_date hdate hoperator ht hne now

theorem leaf_withText_ne (hdate : f.filterType = "date") (hoperator : f.operator ≠ nextWeek)
    (hs : Text.includes weekOf s = true) (ht : Text.includes weekOf t = false) (now : Moment) :
    ((f.withText s).leaf now).value ≠ ((f.withText t).leaf now).value := by
  obtain ⟨hweek, hday⟩ := leaf_withText_of_week hletters hdate hoperator hs ht now
  rw [hweek, hday]
  cases Week.from? (resolveDate (some t) now).value <;> simp

theorem includes_eq_of_leaf_eq (hdate : f.filterType = "date") (hoperator : f.operator ≠ nextWeek)
    {now : Moment} (hleaf : ((f.withText s).leaf now).value = ((f.withText t).leaf now).value) :
    Text.includes weekOf s = Text.includes weekOf t := by
  cases hs : Text.includes weekOf s with
  | true =>
    cases ht : Text.includes weekOf t with
    | true => rfl
    | false => exact absurd hleaf (leaf_withText_ne hletters hdate hoperator hs ht now)
  | false =>
    cases ht : Text.includes weekOf t with
    | true => exact absurd hleaf.symm (leaf_withText_ne hletters.symm hdate hoperator ht hs now)
    | false => rfl

end SameLetters

end FilterSpec

open FilterSpec

/-- Texts that differ only in the case of letters of ASCII denote the same date. A date filter has
the same leaf for both exactly when it asks for the upcoming week, whatever its text is, or both
texts have the words that ask for a week, or neither. If one alone has them, it asks for the week
from the common date on, and the other for the date. -/
theorem leaf_eq_iff_of_sameLetters {f : FilterSpec} {s t : Text} (hdate : f.filterType = "date")
    (hletters : s.map CodePoint.asciiLower = t.map CodePoint.asciiLower) (now : Moment) :
    (resolveDate (some s) now).value = (resolveDate (some t) now).value ∧
    (((f.withText s).leaf now).value = ((f.withText t).leaf now).value ↔
      f.operator = nextWeek ∨ Text.includes weekOf s = Text.includes weekOf t) ∧
    (f.operator ≠ nextWeek → Text.includes weekOf s = true → Text.includes weekOf t = false →
      ((f.withText s).leaf now).value =
          (Week.from? (resolveDate (some t) now).value).map (.inWeek f.property) ∧
        ((f.withText t).leaf now).value =
          some (.onDate f.property f.operator (.date (resolveDate (some t) now).value))) := by
  refine ⟨resolveDate_eq_of_sameLetters hletters now, ⟨fun hleaf => ?_, ?_⟩,
    fun hoperator hs ht => leaf_withText_of_week hletters hdate hoperator hs ht now⟩
  · by_cases hoperator : f.operator = nextWeek
    · exact .inl hoperator
    · exact .inr (includes_eq_of_leaf_eq hletters hdate hoperator hleaf)
  · rintro (hoperator | hweek)
    · exact leaf_withText_upcoming hdate hoperator now s t
    · exact leaf_withText_eq hletters hdate hweek now

def dueOn : FilterSpec := ⟨"Due", "date", "equals", .null⟩

theorem leaf_eq_iff_of_sameLetters_july :
    dueOn.filterType = "date" ∧
      ("the week of 1st July" : Text).map CodePoint.asciiLower =
        ("The week of 1ST JULY" : Text).map CodePoint.asciiLower ∧
      ((dueOn.withText "the week of 1st July").leaf leapDayEve).value =
        ((dueOn.withText "The week of 1ST JULY").leaf leapDayEve).value := by
  have hletters : ("the week of 1st July" : Text).map CodePoint.asciiLower =
      ("The week of 1ST JULY" : Text).map CodePoint.asciiLower := by decide +kernel
  have hweek : Text.includes weekOf "the week of 1st July" =
      Text.includes weekOf "The week of 1ST JULY" := by decide +kernel
  obtain ⟨-, hiff, -⟩ := leaf_eq_iff_of_sameLetters (f := dueOn) rfl hletters leapDayEve
  exact ⟨rfl, hletters, hiff.2 (.inr hweek)⟩

/-- At the beginning of a sentence the words are spelled with a capital, and no week is asked
for. -/
theorem leaf_ne_of_capital :
    ("week of 1st July" : Text).map CodePoint.asciiLower =
        ("Week of 1st July" : Text).map CodePoint.asciiLower ∧
      ((dueOn.withText "week of 1st July").leaf leapDayEve).value ≠
        ((dueOn.withText "Week of 1st July").leaf leapDayEve).value := by
  have hletters : ("week of 1st July" : Text).map CodePoint.asciiLower =
      ("Week of 1st July" : Text).map CodePoint.asciiLower := by decide +kernel
  have hoperator : dueOn.operator ≠ nextWeek := by decide +kernel
  exact ⟨hletters, leaf_withText_ne hletters rfl hoperator (by decide +kernel) (by decide +kernel)
    leapDayEve⟩

end SchemaQuery
