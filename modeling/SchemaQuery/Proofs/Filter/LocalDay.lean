import SchemaQuery.Proofs.DatePhrase.NamedDay
import SchemaQuery.Proofs.Filter.Leaf

/-!
# Local days

What a filter asks for at a moment hangs on the local day, and on whether the moment is the midnight
at which the day begins. The rest of the time and the offset from UTC are never looked at. Nothing
less would do, since the words that name a day tell its midnight from the rest of it.
-/

namespace SchemaQuery

namespace Moment

/-- The moments are on one local day, and both or neither are the midnight at which it begins. -/
structure SharesDay (now other : Moment) : Prop where
  date : now.date = other.date
  midnight : now.time = .midnight ↔ other.time = .midnight

variable {now other : Moment}

theorem SharesDay.isAfterMidnightOf_iff (h : now.SharesDay other) (d : Date) :
    now.isAfterMidnightOf d ↔ other.isAfterMidnightOf d := by
  unfold isAfterMidnightOf
  rw [h.date, Ne, Ne, h.midnight]

theorem SharesDay.resolve?_eq (h : now.SharesDay other) (p : DatePhrase) :
    p.resolve? now = p.resolve? other := by
  simp only [DatePhrase.resolve?, h.date, h.isAfterMidnightOf_iff]

theorem SharesDay.resolveDate_eq (h : now.SharesDay other) (text : Option Text) :
    resolveDate text now = resolveDate text other := by
  simp only [resolveDate, h.resolve?_eq, h.date]

end Moment

theorem Week.upcoming?_congr {now other : Moment} (h : now.date = other.date) :
    upcoming? now = upcoming? other := by
  rw [upcoming?, upcoming?, h]

namespace FilterSpec

variable {f : FilterSpec} {now other : Moment}

theorem leaf_eq_of_nextWeek (hoperator : f.operator = nextWeek) (hdate : now.date = other.date) :
    f.leaf now = f.leaf other := by
  unfold leaf dateLeaf
  rw [if_pos hoperator, if_pos hoperator, Week.upcoming?_congr hdate]

theorem leaf_eq_of_sharesDay (h : now.SharesDay other) (f : FilterSpec) :
    f.leaf now = f.leaf other := by
  unfold leaf dateLeaf
  simp only [Week.upcoming?_congr h.date, Week.resolve, h.resolveDate_eq]

end FilterSpec

/-! ### Moments told apart -/

theorem Text.subset_of_includes {needle t : Text} (h : includes needle t = true) : needle ⊆ t := by
  induction t with
  | nil =>
    rw [includes, List.isEmpty_iff] at h
    rw [h]
    exact List.nil_subset _
  | cons c t ih =>
    rw [includes, Bool.or_eq_true] at h
    rcases h with hstart | hlater
    · obtain ⟨rest, hrest⟩ := Option.isSome_iff_exists.1 hstart
      rw [eq_append_of_after? hrest]
      exact List.subset_append_left _ _
    · exact List.subset_cons_of_subset c (ih hlater)

namespace FilterSpec

/-- The words for a day lack a letter of the words for a week. -/
theorem includes_weekOf_inWords (d : Date) :
    Text.includes weekOf (DatePhrase.inWords d) = false := by
  rw [Bool.eq_false_iff]
  intro hweek
  have hmem : CodePoint.scalar 'w' ∈ DatePhrase.inWords d :=
    Text.subset_of_includes hweek List.mem_cons_self
  have hmonth : ∀ month < 13,
      CodePoint.scalar 'w' ∉ Text.ofString (DatePhrase.monthName month) := by
    decide +kernel
  obtain ⟨-, hle⟩ := Calendar.month_le_of_day d.day_pos d.day_le
  rcases DatePhrase.of_mem_inWords hmem with hdigit | hblank | hname
  · exact absurd hdigit (by decide)
  · exact absurd hblank (by decide)
  · exact hmonth d.month (Nat.lt_succ_of_le hle) hname

variable {f : FilterSpec} {now other : Moment} {t : Text}

theorem resolveDate_eq_of_leaf_eq (hdate : f.filterType = "date")
    (hoperator : f.operator ≠ nextWeek)
    (hweek : Text.includes weekOf t = false) (hne : t ≠ [])
    (h : ((f.withText t).leaf now).value = ((f.withText t).leaf other).value) :
    (resolveDate (some t) now).value = (resolveDate (some t) other).value := by
  rw [leaf_withText_date hdate hoperator hweek hne,
    leaf_withText_date hdate hoperator hweek hne] at h
  simpa using h

/-- Moments at which a filter asks for the same, whatever its text is, share their day. -/
theorem sharesDay_of_leaf_eq (hdate : f.filterType = "date") (hoperator : f.operator ≠ nextWeek)
    (hlow : 1000 ≤ now.date.year) (hhigh : now.date.year ≤ 9998)
    (h : ∀ t, ((f.withText t).leaf now).value = ((f.withText t).leaf other).value) :
    now.SharesDay other := by
  have hsame : now.date = other.date := by
    have hnone : DatePhrase.find? "today" = none := by decide +kernel
    have htoday := resolveDate_eq_of_leaf_eq (t := "today") hdate hoperator (by decide +kernel)
      (by decide +kernel) (h "today")
    rwa [DatePhrase.resolveDate_of_find?_eq_none hnone,
      DatePhrase.resolveDate_of_find?_eq_none hnone] at htoday
  refine ⟨hsame, ?_⟩
  have hne : DatePhrase.inWords now.date ≠ [] := by
    intro hnil
    have hfind := DatePhrase.find?_inWords now.date
    rw [hnil] at hfind
    cases hfind
  have hwords := resolveDate_eq_of_leaf_eq hdate hoperator (includes_weekOf_inWords now.date) hne
    (h (DatePhrase.inWords now.date))
  rw [← resolveDate_inWords_eq_iff hlow hhigh, hwords, hsame,
    resolveDate_inWords_eq_iff (hsame ▸ hlow) (hsame ▸ hhigh)]

end FilterSpec

open FilterSpec

/-- At moments that share their day every filter has the same leaf or none, and says the same about
it. A filter for the upcoming week asks for the same all day. Away from the ends of the calendar,
moments at which one filter asks for the same by every text share their day. -/
theorem leaf_hangs_on_localDay (now other : Moment) :
    (now.SharesDay other → ∀ f : FilterSpec, f.leaf now = f.leaf other) ∧
    (now.date = other.date →
      ∀ f : FilterSpec, f.operator = nextWeek → f.leaf now = f.leaf other) ∧
    (1000 ≤ now.date.year → now.date.year ≤ 9998 →
      ∀ f : FilterSpec, f.filterType = "date" → f.operator ≠ nextWeek →
        (∀ t, ((f.withText t).leaf now).value = ((f.withText t).leaf other).value) →
        now.SharesDay other) :=
  ⟨fun h f => leaf_eq_of_sharesDay h f,
    fun hdate _ hoperator => leaf_eq_of_nextWeek hoperator hdate,
    fun hlow hhigh _ hdate hoperator h => sharesDay_of_leaf_eq hdate hoperator hlow hhigh h⟩

/-- A microsecond into the day of `leapDayEve`, without an offset. -/
def leapDayDawn : Moment := ⟨leapDayEve.date, .ofMicroseconds 1, none⟩

def dueBefore : FilterSpec := ⟨"Due", "date", "before", .null⟩

/-- Noon at UTC and the first microsecond of the day are one moment to every filter, and the
midnight of the day is another one. -/
theorem leaf_hangs_on_localDay_leapDayEve :
    leapDayEve.SharesDay leapDayDawn ∧
      (∀ f : FilterSpec, f.leaf leapDayEve = f.leaf leapDayDawn) ∧
      (∀ f : FilterSpec, f.operator = nextWeek →
        f.leaf leapDayEve = f.leaf (.ofDate leapDayEve.date)) ∧
      ¬ ∀ t, ((dueBefore.withText t).leaf leapDayEve).value =
        ((dueBefore.withText t).leaf (.ofDate leapDayEve.date)).value := by
  have hshares : leapDayEve.SharesDay leapDayDawn := ⟨rfl, by decide +kernel⟩
  have hoperator : dueBefore.operator ≠ nextWeek := by decide +kernel
  obtain ⟨hsame, -, -⟩ := leaf_hangs_on_localDay leapDayEve leapDayDawn
  obtain ⟨-, hweek, htold⟩ := leaf_hangs_on_localDay leapDayEve (.ofDate leapDayEve.date)
  refine ⟨hshares, hsame hshares, hweek rfl, fun h => ?_⟩
  have hmidnight := (htold (by decide) (by decide) dueBefore rfl hoperator h).midnight.2 rfl
  exact absurd hmidnight (by decide)

end SchemaQuery
