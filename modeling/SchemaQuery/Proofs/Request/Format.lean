import SchemaQuery.Proofs.Json.Scalar
import SchemaQuery.Proofs.Outcome
import SchemaQuery.Request.Reader

/-!
# The format of requests

What a document has to hold to be a request, said of its members: which of them must be there, which
may be, and what each of them says. A document is accepted exactly when it is of this form, and the
request is what it states.
-/

namespace SchemaQuery

theorem SortDirection.ofName?_eq_some_iff {t : Text} {d : SortDirection} :
    ofName? t = some d ↔ t = d.name := by
  constructor
  · intro h
    unfold ofName? at h
    split at h
    · rename_i hname
      cases h
      exact hname
    · split at h
      · rename_i hname
        cases h
        exact hname
      · cases h
  · rintro rfl
    exact ofName?_name d

namespace Request

variable {entries : Entries Json} {key name : Text}

/-! ### What members state -/

/-- A text under the key is the name with white space around it. -/
def States (entries : Entries Json) (key name : Text) : Prop :=
  ∃ t, Entries.find? key entries = some (.string t) ∧ t.isScalar = true ∧ t.stripped = name ∧
    name ≠ []

/-- There are no members but known ones. -/
def HasOnly (known : List Text) (entries : Entries Json) : Prop :=
  ∀ key ∈ Entries.keys entries, key ∈ known

/-- The type of a filter stands under one of its two keys. -/
inductive StatesType (entries : Entries Json) (name : Text) : Prop
  | short : States entries "filterType" name → Entries.find? "filter_type" entries = none →
    StatesType entries name
  | long : States entries "filter_type" name → Entries.find? "filterType" entries = none →
    StatesType entries name

def filterKeys : List Text := ["property", "filterType", "filter_type", "operator", "value"]

structure StatesFilter (entries : Entries Json) (f : FilterSpec) : Prop where
  only : HasOnly filterKeys entries
  property : States entries "property" f.property
  filterType : StatesType entries f.filterType
  operator : States entries "operator" f.operator
  value : f.value = (Entries.find? "value" entries).getD .null

/-- A direction is spelled exactly. -/
inductive StatesDirection (entries : Entries Json) : SortDirection → Prop
  | absent : Entries.find? "direction" entries = none → StatesDirection entries .ascending
  | named {d : SortDirection} : Entries.find? "direction" entries = some (.string d.name) →
    StatesDirection entries d

structure StatesSort (entries : Entries Json) (s : SortSpec) : Prop where
  only : HasOnly ["property", "direction"] entries
  property : States entries "property" s.property
  direction : StatesDirection entries s.direction

/-- Each item of the list is an object that states a filter. -/
inductive StatesFilters (entries : Entries Json) : List FilterSpec → Prop
  | absent : Entries.find? "filters" entries = none → StatesFilters entries []
  | items {items : List (Entries Json)} {filters : List FilterSpec} :
    Entries.find? "filters" entries = some (.array (items.map .object)) →
    List.Forall₂ StatesFilter items filters → StatesFilters entries filters

inductive StatesOrder (entries : Entries Json) : Option SortSpec → Prop
  | absent : Entries.find? "sort" entries = none → StatesOrder entries none
  | null : Entries.find? "sort" entries = some .null → StatesOrder entries none
  | sort {members : Entries Json} {s : SortSpec} :
    Entries.find? "sort" entries = some (.object members) → StatesSort members s →
    StatesOrder entries (some s)

structure StatesRequest (entries : Entries Json) (r : QueryRequest) : Prop where
  only : HasOnly ["database", "filters", "sort"] entries
  database : States entries "database" r.database
  filters : StatesFilters entries r.filters
  sort : StatesOrder entries r.sort

/-! ### Checks of members -/

theorem checkName_eq_valid {v : Json} {name : Text} : checkName v = .valid name ↔
    ∃ t : Text, v = .string t ∧ t.isScalar = true ∧ t.stripped ≠ [] ∧ t.stripped = name := by
  unfold checkName
  cases v with
  | string t =>
    by_cases hscalar : t.isScalar = true <;> by_cases hempty : t.stripped = [] <;>
      simp [hscalar, hempty, Checked.fault]
  | null | bool | int | float | array | object => simp [Checked.fault]

theorem required_checkName_eq_valid :
    Checked.required key checkName entries = .valid name ↔ States entries key name := by
  simp only [Checked.required_eq_valid, checkName_eq_valid, States]
  constructor
  · rintro ⟨_, hfind, t, rfl, hscalar, hne, rfl⟩
    exact ⟨t, hfind, hscalar, rfl, hne⟩
  · rintro ⟨t, hfind, hscalar, rfl, hne⟩
    exact ⟨_, hfind, t, rfl, hscalar, hne, rfl⟩

theorem States.exists_find? (h : States entries key name) :
    ∃ t, Entries.find? key entries = some (.string t) := by
  obtain ⟨t, hfind, -⟩ := h
  exact ⟨t, hfind⟩

theorem checkObject_eq_valid_iff {α : Type} {check : Entries Json → Checked α} {v : Json} {a : α} :
    checkObject check v = .valid a ↔ ∃ entries, v = .object entries ∧
      (∀ key ∈ Entries.keys entries, key.isScalar = true) ∧ check entries = .valid a := by
  constructor
  · intro h
    unfold checkObject at h
    split at h
    · split at h
      · rename_i hkeys
        exact ⟨_, rfl, List.all_eq_true.1 hkeys, h⟩
      · cases h
    · cases h
  · rintro ⟨entries, rfl, hkeys, hentries⟩
    unfold checkObject
    simp only [List.all_eq_true.2 hkeys, if_true, hentries]

theorem HasOnly.isScalar {known : List Text} (h : HasOnly known entries)
    (hknown : ∀ key ∈ known, key.isScalar = true) :
    ∀ key ∈ Entries.keys entries, key.isScalar = true :=
  fun key hkey => hknown key (h key hkey)

theorem hasOnly_erase_iff {known : List Text} (hnodup : known.Nodup) (key : Text) :
    HasOnly (known.erase key) entries ↔
      HasOnly known entries ∧ Entries.find? key entries = none := by
  unfold HasOnly
  simp only [hnodup.mem_erase_iff, Entries.find?_eq_none_iff]
  constructor
  · intro h
    exact ⟨fun k hk => (h k hk).2, fun hk => (h key hk).1 rfl⟩
  · rintro ⟨hknown, hkey⟩ k hk
    refine ⟨?_, hknown k hk⟩
    rintro rfl
    exact hkey hk

/-- An object whose members are checked is valid when it has no others. -/
theorem checkObject_noOthers_eq_valid {α : Type} {check : Entries Json → Checked α}
    {known : Entries Json → List Text}
    (hknown : ∀ entries, ∀ key ∈ known entries, key.isScalar = true) {v : Json} {a : α} :
    checkObject (fun entries => check entries <* Checked.noOthers (known entries) entries) v =
        .valid a ↔
      ∃ entries, v = .object entries ∧ check entries = .valid a ∧
        HasOnly (known entries) entries := by
  rw [checkObject_eq_valid_iff]
  simp only [Checked.seqLeft_eq_valid_iff]
  constructor
  · rintro ⟨entries, rfl, -, hcheck, ⟨⟩, hothers⟩
    exact ⟨entries, rfl, hcheck, Checked.noOthers_eq_valid.1 hothers⟩
  · rintro ⟨entries, rfl, hcheck, honly⟩
    exact ⟨entries, rfl, honly.isScalar (hknown entries), hcheck, (),
      Checked.noOthers_eq_valid.2 honly⟩

/-! ### Filters -/

theorem nodup_filterKeys : filterKeys.Nodup := by decide

theorem isScalar_typeKey : (typeKey entries).isScalar = true := by
  unfold typeKey
  split <;> rfl

theorem typeKey_of_short {v : Json} (h : Entries.find? "filterType" entries = some v) :
    typeKey entries = "filterType" := by
  simp [typeKey, h]

theorem typeKey_of_long {v : Json} (hshort : Entries.find? "filterType" entries = none)
    (h : Entries.find? "filter_type" entries = some v) : typeKey entries = "filter_type" := by
  simp [typeKey, hshort, h]

theorem filterFields_eq_valid {f : FilterSpec} :
    FilterSpec.mk
      <$> Checked.required "property" checkName entries
      <*> Checked.either "filterType" "filter_type" checkName entries
      <*> Checked.required "operator" checkName entries
      <*> Checked.optional "value" .null .valid entries = .valid f ↔
    States entries "property" f.property ∧
      Checked.either "filterType" "filter_type" checkName entries = .valid f.filterType ∧
      States entries "operator" f.operator ∧
      f.value = (Entries.find? "value" entries).getD .null := by
  have hvalue {v : Json} : Checked.optional "value" .null .valid entries = .valid v ↔
      v = (Entries.find? "value" entries).getD .null := by
    rw [Checked.optional_eq_valid]
    cases Entries.find? "value" entries <;> simp [eq_comm]
  simp only [Checked.seq_eq_valid, Checked.map_eq_valid, required_checkName_eq_valid, hvalue]
  constructor
  · rintro ⟨_, value, ⟨_, operator, ⟨_, type, ⟨property, hproperty, rfl⟩, htype, rfl⟩, hoperator,
      rfl⟩, hv, rfl⟩
    exact ⟨hproperty, htype, hoperator, hv⟩
  · rintro ⟨hproperty, htype, hoperator, hv⟩
    exact ⟨_, _, ⟨_, _, ⟨_, _, ⟨_, hproperty, rfl⟩, htype, rfl⟩, hoperator, rfl⟩, hv, rfl⟩

/-- Whichever key the type of a filter stands under, the other one is not known. -/
theorem either_and_hasOnly_iff :
    (Checked.either "filterType" "filter_type" checkName entries = .valid name ∧
      HasOnly ["property", typeKey entries, "operator", "value"] entries) ↔
    (StatesType entries name ∧ HasOnly filterKeys entries) := by
  rw [Checked.either_eq_valid, ← Checked.required_eq_valid, ← Checked.required_eq_valid,
    required_checkName_eq_valid, required_checkName_eq_valid]
  have hshort : HasOnly ["property", "filterType", "operator", "value"] entries ↔
      HasOnly filterKeys entries ∧ Entries.find? "filter_type" entries = none :=
    hasOnly_erase_iff nodup_filterKeys "filter_type"
  have hlong : HasOnly ["property", "filter_type", "operator", "value"] entries ↔
      HasOnly filterKeys entries ∧ Entries.find? "filterType" entries = none :=
    hasOnly_erase_iff nodup_filterKeys "filterType"
  constructor
  · rintro ⟨hstates | ⟨hnone, hstates⟩, honly⟩
    · obtain ⟨t, hfind⟩ := hstates.exists_find?
      rw [typeKey_of_short hfind, hshort] at honly
      exact ⟨.short hstates honly.2, honly.1⟩
    · obtain ⟨t, hfind⟩ := hstates.exists_find?
      rw [typeKey_of_long hnone hfind, hlong] at honly
      exact ⟨.long hstates hnone, honly.1⟩
  · rintro ⟨⟨hstates, hother⟩ | ⟨hstates, hother⟩, honly⟩
    · obtain ⟨t, hfind⟩ := hstates.exists_find?
      rw [typeKey_of_short hfind, hshort]
      exact ⟨.inl hstates, honly, hother⟩
    · obtain ⟨t, hfind⟩ := hstates.exists_find?
      rw [typeKey_of_long hother hfind, hlong]
      exact ⟨.inr ⟨hother, hstates⟩, honly, hother⟩

theorem checkFilter_eq_valid_iff {item : Json} {f : FilterSpec} :
    checkFilter item = .valid f ↔ ∃ entries, item = .object entries ∧ StatesFilter entries f := by
  unfold checkFilter
  rw [checkObject_noOthers_eq_valid]
  · refine exists_congr fun entries => and_congr_right fun _ => ?_
    rw [filterFields_eq_valid]
    constructor
    · rintro ⟨⟨hproperty, htype, hoperator, hvalue⟩, honly⟩
      obtain ⟨htype, honly⟩ := either_and_hasOnly_iff.1 ⟨htype, honly⟩
      exact ⟨honly, hproperty, htype, hoperator, hvalue⟩
    · rintro ⟨honly, hproperty, htype, hoperator, hvalue⟩
      obtain ⟨htype, honly⟩ := either_and_hasOnly_iff.2 ⟨htype, honly⟩
      exact ⟨⟨hproperty, htype, hoperator, hvalue⟩, honly⟩
  · intro entries
    simp [isScalar_typeKey]

theorem forall₂_checkFilter_iff {values : List Json} {filters : List FilterSpec} :
    List.Forall₂ (fun item f => checkFilter item = .valid f) values filters ↔
      ∃ items : List (Entries Json), values = items.map .object ∧
        List.Forall₂ StatesFilter items filters := by
  constructor
  · intro h
    induction h with
    | nil => exact ⟨[], rfl, .nil⟩
    | cons hitem _ ih =>
      obtain ⟨members, rfl, hstates⟩ := checkFilter_eq_valid_iff.1 hitem
      obtain ⟨items, rfl, hitems⟩ := ih
      exact ⟨members :: items, rfl, .cons hstates hitems⟩
  · rintro ⟨items, rfl, hitems⟩
    refine List.forall₂_map_left_iff.2 (hitems.imp ?_)
    intro members f hstates
    exact checkFilter_eq_valid_iff.2 ⟨members, rfl, hstates⟩

theorem checkFilters_eq_valid_iff {v : Json} {filters : List FilterSpec} :
    checkFilters v = .valid filters ↔ ∃ items : List (Entries Json),
      v = .array (items.map .object) ∧ List.Forall₂ StatesFilter items filters := by
  constructor
  · intro h
    unfold checkFilters at h
    split at h
    · obtain ⟨items, rfl, hitems⟩ := forall₂_checkFilter_iff.1 (Checked.items_eq_valid.1 h)
      exact ⟨items, rfl, hitems⟩
    · cases h
  · rintro ⟨items, rfl, hitems⟩
    exact Checked.items_eq_valid.2 (forall₂_checkFilter_iff.2 ⟨items, rfl, hitems⟩)

/-! ### The order -/

theorem checkDirection_eq_valid_iff {v : Json} {d : SortDirection} :
    checkDirection v = .valid d ↔ v = .string d.name := by
  constructor
  · intro h
    unfold checkDirection at h
    split at h
    · split at h
      · cases h
      · split at h
        · rename_i hname
          cases h
          rw [SortDirection.ofName?_eq_some_iff.1 hname]
        · cases h
    · cases h
  · rintro rfl
    have hscalar : Text.isScalar d.name = true := by cases d <;> rfl
    simp only [checkDirection, hscalar, SortDirection.ofName?_name]
    rfl

theorem optional_checkDirection_eq_valid {d : SortDirection} :
    Checked.optional "direction" .ascending checkDirection entries = .valid d ↔
      StatesDirection entries d := by
  rw [Checked.optional_eq_valid]
  simp only [checkDirection_eq_valid_iff]
  constructor
  · rintro (⟨hnone, rfl⟩ | ⟨_, hfind, rfl⟩)
    · exact .absent hnone
    · exact .named hfind
  · rintro (hnone | hfind)
    · exact Or.inl ⟨hnone, rfl⟩
    · exact Or.inr ⟨_, hfind, rfl⟩

theorem checkSort_eq_valid_iff {v : Json} {s : SortSpec} :
    checkSort v = .valid s ↔ ∃ entries, v = .object entries ∧ StatesSort entries s := by
  unfold checkSort
  rw [checkObject_noOthers_eq_valid]
  · refine exists_congr fun entries => and_congr_right fun _ => ?_
    simp only [Checked.seq_eq_valid, Checked.map_eq_valid, required_checkName_eq_valid,
      optional_checkDirection_eq_valid]
    constructor
    · rintro ⟨⟨_, direction, ⟨property, hproperty, rfl⟩, hdirection, rfl⟩, honly⟩
      exact ⟨honly, hproperty, hdirection⟩
    · rintro ⟨honly, hproperty, hdirection⟩
      exact ⟨⟨_, _, ⟨_, hproperty, rfl⟩, hdirection, rfl⟩, honly⟩
  · simp

theorem optional_checkOptionalSort_eq_valid {sort : Option SortSpec} :
    Checked.optional "sort" none checkOptionalSort entries = .valid sort ↔
      StatesOrder entries sort := by
  rw [Checked.optional_eq_valid]
  constructor
  · rintro (⟨hnone, rfl⟩ | ⟨v, hfind, hv⟩)
    · exact .absent hnone
    · unfold checkOptionalSort at hv
      split at hv
      · cases hv
        exact .null hfind
      · obtain ⟨s, hs, rfl⟩ := Checked.map_eq_valid.1 hv
        obtain ⟨members, rfl, hstates⟩ := checkSort_eq_valid_iff.1 hs
        exact .sort hfind hstates
  · intro h
    cases h with
    | absent hnone => exact Or.inl ⟨hnone, rfl⟩
    | null hfind => exact Or.inr ⟨_, hfind, rfl⟩
    | sort hfind hstates =>
      have hsort := checkSort_eq_valid_iff.2 ⟨_, rfl, hstates⟩
      exact Or.inr ⟨_, hfind, Checked.map_eq_valid.2 ⟨_, hsort, rfl⟩⟩

/-! ### Requests -/

theorem optional_checkFilters_eq_valid {filters : List FilterSpec} :
    Checked.optional "filters" [] checkFilters entries = .valid filters ↔
      StatesFilters entries filters := by
  rw [Checked.optional_eq_valid]
  simp only [checkFilters_eq_valid_iff]
  constructor
  · rintro (⟨hnone, rfl⟩ | ⟨_, hfind, items, rfl, hitems⟩)
    · exact .absent hnone
    · exact .items hfind hitems
  · rintro (hnone | ⟨hfind, hitems⟩)
    · exact Or.inl ⟨hnone, rfl⟩
    · exact Or.inr ⟨_, hfind, _, rfl, hitems⟩

theorem check_eq_valid_iff {v : Json} {r : QueryRequest} :
    check v = .valid r ↔ ∃ entries, v = .object entries ∧ StatesRequest entries r := by
  unfold check
  rw [checkObject_noOthers_eq_valid]
  · refine exists_congr fun entries => and_congr_right fun _ => ?_
    simp only [Checked.seq_eq_valid, Checked.map_eq_valid, required_checkName_eq_valid,
      optional_checkFilters_eq_valid, optional_checkOptionalSort_eq_valid]
    constructor
    · rintro ⟨⟨_, sort, ⟨_, filters, ⟨database, hdatabase, rfl⟩, hfilters, rfl⟩, hsort, rfl⟩,
        honly⟩
      exact ⟨honly, hdatabase, hfilters, hsort⟩
    · rintro ⟨honly, hdatabase, hfilters, hsort⟩
      exact ⟨⟨_, _, ⟨_, _, ⟨_, hdatabase, rfl⟩, hfilters, rfl⟩, hsort, rfl⟩, honly⟩
  · simp

theorem read_eq_ok_iff {t : Text} {r : QueryRequest} : read t = .ok r ↔
    ∃ document, Json.read (unfenced t) = .ok document ∧ check document = .valid r := by
  unfold read
  constructor
  · intro h
    split at h
    · cases h
    · cases h
    · rename_i document hdocument
      split at h
      · rename_i hcheck
        cases h
        exact ⟨document, hdocument, hcheck⟩
      · cases h
  · rintro ⟨document, hdocument, hcheck⟩
    simp only [hdocument, hcheck]

theorem read_eq_ok_iff_exists_states {t : Text} {r : QueryRequest} : read t = .ok r ↔
    ∃ entries, Json.read (unfenced t) = .ok (.object entries) ∧ StatesRequest entries r := by
  simp only [read_eq_ok_iff, check_eq_valid_iff]
  constructor
  · rintro ⟨_, hread, entries, rfl, hstates⟩
    exact ⟨entries, hread, hstates⟩
  · rintro ⟨entries, hread, hstates⟩
    exact ⟨_, hread, entries, rfl, hstates⟩

end Request

end SchemaQuery
