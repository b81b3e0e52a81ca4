import Mathlib.Order.Bounds.Basic
import SchemaQuery.Filter
import SchemaQuery.Proofs.Calendar.Ordinal
import SchemaQuery.Proofs.Table

/-!
# Leaves of filters

Every filter has a leaf, unless it asks for a week that the calendar does not have.
-/

namespace SchemaQuery

namespace Week

variable {now : Moment} {start : Date}

theorem from?_eq_none_iff : from? start = none ↔ Date.last.ordinal < start.ordinal + 7 := by
  rw [from?, Option.map_eq_none_iff, Date.addDays?_eq_none_iff]

/-- The upcoming week is missing when its Monday or the day after its Sunday is. -/
theorem upcoming?_eq_none_iff :
    upcoming? now = none ↔ Date.last.ordinal < now.date.nextMondayOrdinal + 7 := by
  unfold upcoming?
  cases hmonday : now.date.nextMonday? with
  | none =>
    have hlast := Date.nextMonday?_eq_none_iff.1 hmonday
    simp only [Option.bind_none, true_iff]
    omega
  | some monday =>
    rw [Option.bind_some, from?_eq_none_iff, Date.nextMonday?_eq_some_iff.1 hmonday]

end Week

namespace FilterSpec

variable {f : FilterSpec} {now : Moment} {leaf : LeafFilter}

/-- The filter asks for a week that is not over when the calendar ends. -/
inductive PassesCalendar (f : FilterSpec) (now : Moment) : Prop
  /-- Mondays have the ordinals 1, 8, 15 and so on. -/
  | upcoming {monday : Nat} : f.filterType = "date" → f.operator = nextWeek →
    IsLeast {n | now.date.ordinal ≤ n ∧ n % 7 = 1} monday →
    Date.last.ordinal < monday + 7 → PassesCalendar f now
  | phrase {t : Text} : f.filterType = "date" → f.operator ≠ nextWeek → f.value = .string t →
    Text.includes weekOf t = true →
    Date.last.ordinal < (resolveDate (some t) now).value.ordinal + 7 → PassesCalendar f now

theorem dateLeaf_upcoming (h : f.operator = nextWeek) :
    (f.dateLeaf now).value = (Week.upcoming? now).map (.inWeek f.property) := by
  rw [dateLeaf, if_pos h]
  rfl

theorem dateLeaf_phrase {t : Text} (hoperator : f.operator ≠ nextWeek)
    (hvalue : f.value = .string t)
    (hweek : Text.includes weekOf t = true) :
    (f.dateLeaf now).value =
      (Week.from? (resolveDate (some t) now).value).map (.inWeek f.property) := by
  cases t with
  | nil => cases hweek
  | cons c t =>
    rw [dateLeaf, if_neg hoperator, hvalue]
    simp only [hweek, if_true]
    rfl

theorem dateLeaf_date {t : Text} (hoperator : f.operator ≠ nextWeek) (hvalue : f.value = .string t)
    (hweek : ¬ Text.includes weekOf t = true) (hne : t ≠ []) :
    (f.dateLeaf now).value =
      some (.onDate f.property f.operator (.date (resolveDate (some t) now).value)) := by
  cases t with
  | nil => exact absurd rfl hne
  | cons c t =>
    rw [dateLeaf, if_neg hoperator, hvalue]
    simp only [hweek]
    rfl

theorem dateLeaf_given (hoperator : f.operator ≠ nextWeek)
    (hvalue : ∀ t, f.value = .string t → t = []) :
    (f.dateLeaf now).value = some (.onDate f.property f.operator (.given f.value)) := by
  rw [dateLeaf, if_neg hoperator]
  cases hv : f.value with
  | string t =>
    obtain rfl := hvalue t hv
    rfl
  | null | bool | int | float | array | object => rfl

/-- What a date filter becomes. -/
inductive IsDateLeaf (f : FilterSpec) (now : Moment) : Option LeafFilter → Prop
  | upcoming : f.operator = nextWeek →
    IsDateLeaf f now ((Week.upcoming? now).map (.inWeek f.property))
  | week {t : Text} : f.operator ≠ nextWeek → f.value = .string t →
    Text.includes weekOf t = true →
    IsDateLeaf f now ((Week.from? (resolveDate (some t) now).value).map (.inWeek f.property))
  | date {t : Text} : f.operator ≠ nextWeek → f.value = .string t →
    ¬ Text.includes weekOf t = true → t ≠ [] →
    IsDateLeaf f now
      (some (.onDate f.property f.operator (.date (resolveDate (some t) now).value)))
  | given : f.operator ≠ nextWeek → (∀ t, f.value = .string t → t = []) →
    IsDateLeaf f now (some (.onDate f.property f.operator (.given f.value)))

theorem isDateLeaf_dateLeaf (f : FilterSpec) (now : Moment) :
    f.IsDateLeaf now (f.dateLeaf now).value := by
  by_cases hoperator : f.operator = nextWeek
  · rw [dateLeaf_upcoming hoperator]
    exact .upcoming hoperator
  by_cases hgiven : ∃ t, f.value = .string t ∧ t ≠ []
  · obtain ⟨t, hvalue, hne⟩ := hgiven
    by_cases hweek : Text.includes weekOf t = true
    · rw [dateLeaf_phrase hoperator hvalue hweek]
      exact .week hoperator hvalue hweek
    · rw [dateLeaf_date hoperator hvalue hweek hne]
      exact .date hoperator hvalue hweek hne
  · have hempty : ∀ t, f.value = .string t → t = [] :=
      fun t hvalue => Decidable.not_not.1 fun hne => hgiven ⟨t, hvalue, hne⟩
    rw [dateLeaf_given hoperator hempty]
    exact .given hoperator hempty

theorem leaf_of_date (h : f.filterType = "date") : f.leaf now = f.dateLeaf now := by
  rw [leaf, if_pos h]

/-- The filter with another text. -/
def withText (f : FilterSpec) (t : Text) : FilterSpec := { f with value := .string t }

theorem leaf_withText_week {t : Text} (hdate : f.filterType = "date")
    (hoperator : f.operator ≠ nextWeek) (hweek : Text.includes weekOf t = true) (now : Moment) :
    ((f.withText t).leaf now).value =
      (Week.from? (resolveDate (some t) now).value).map (.inWeek f.property) := by
  rw [leaf_of_date (f := f.withText t) hdate,
    dateLeaf_phrase (f := f.withText t) hoperator rfl hweek]
  rfl

theorem leaf_withText_date {t : Text} (hdate : f.filterType = "date")
    (hoperator : f.operator ≠ nextWeek) (hweek : Text.includes weekOf t = false) (hne : t ≠ [])
    (now : Moment) :
    ((f.withText t).leaf now).value =
      some (.onDate f.property f.operator (.date (resolveDate (some t) now).value)) := by
  rw [leaf_of_date (f := f.withText t) hdate,
    dateLeaf_date (f := f.withText t) hoperator rfl (Bool.eq_false_iff.1 hweek) hne]
  rfl

theorem leaf_of_other (now : Moment) (h : f.filterType ≠ "date") :
    (∃ kind : OperatorKind, kind.name = f.filterType ∧
      f.leaf now = pure (some (.operator kind f.property f.operator f.value))) ∨
    f.leaf now = pure (some (.passedOn f.property f.filterType f.operator f.value)) := by
  rw [leaf, if_neg h]
  cases hkind : OperatorKind.ofName? f.filterType with
  | none => exact Or.inr rfl
  | some kind => exact Or.inl ⟨kind, by simpa using List.find?_some hkind, rfl⟩

/-- Only a week past the end of the calendar keeps a filter from having a leaf. -/
theorem leaf_eq_none_iff : (f.leaf now).value = none ↔ f.PassesCalendar now := by
  by_cases hdate : f.filterType = "date"
  · rw [leaf_of_date hdate]
    constructor
    · intro hnone
      have hleaf := f.isDateLeaf_dateLeaf now
      rw [hnone] at hleaf
      generalize hresult : (none : Option LeafFilter) = result at hleaf
      cases hleaf with
      | upcoming hoperator =>
        have hweek := Week.upcoming?_eq_none_iff.1 (Option.map_eq_none_iff.1 hresult.symm)
        exact .upcoming hdate hoperator now.date.isLeast_nextMondayOrdinal hweek
      | week hoperator hvalue hphrase =>
        have hweek := Week.from?_eq_none_iff.1 (Option.map_eq_none_iff.1 hresult.symm)
        exact .phrase hdate hoperator hvalue hphrase hweek
      | date => cases hresult
      | given => cases hresult
    · intro hpasses
      cases hpasses with
      | upcoming _ hoperator hmonday hlast =>
        rw [hmonday.unique now.date.isLeast_nextMondayOrdinal] at hlast
        rw [dateLeaf_upcoming hoperator, Option.map_eq_none_iff, Week.upcoming?_eq_none_iff]
        exact hlast
      | phrase _ hoperator hvalue hphrase hlast =>
        rw [dateLeaf_phrase hoperator hvalue hphrase, Option.map_eq_none_iff,
          Week.from?_eq_none_iff]
        exact hlast
  · constructor
    · intro hnone
      rcases leaf_of_other now hdate with ⟨kind, -, hleaf⟩ | hleaf
      · rw [hleaf] at hnone
        cases hnone
      · rw [hleaf] at hnone
        cases hnone
    · intro hpasses
      cases hpasses with
      | upcoming h => exact absurd h hdate
      | phrase h => exact absurd h hdate

end FilterSpec

end SchemaQuery
