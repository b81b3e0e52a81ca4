import SchemaQuery.Proofs.Query.Compile

/-!
# What validation lets through

A request that compiles for a database with a cached schema names properties that exist, by filter
types that apply to them, and compares properties of one choice or more with options that they have.
A property without options has nothing to compare with, so it takes any text; this is the only gap,
and the rules are the only ones there are.
-/

namespace SchemaQuery

namespace FilterSpec

variable {f : FilterSpec} {p : Property} {schema : DatabaseSchema}

def Applies (filterType : Text) (p : Property) : Prop :=
  ∃ types, (filterType, types) ∈ compatibleTypes ∧ p.type ∈ types

/-- The filter compares a property whose values are chosen from options with a text. -/
structure Compares (f : FilterSpec) (p : Property) (t : Text) : Prop where
  enumerated : p.type ∈ Property.enumeratedTypes
  operator : f.operator ∈ optionOperators
  value : f.value = .string t

structure Fits (f : FilterSpec) (schema : DatabaseSchema) (p : Property) : Prop where
  property : (f.property, p) ∈ schema.properties.entries
  applies : Applies f.filterType p
  /-- A property without options takes any text. -/
  option : ∀ t, f.Compares p t → p.optionNames ≠ [] → t ∈ p.optionNames

theorem find?_compatibleTypes {filterType : Text} {types : List Text} :
    Entries.find? filterType compatibleTypes = some types ↔ (filterType, types) ∈ compatibleTypes :=
  ⟨Entries.mem_of_find?, Entries.find?_of_mem (by decide)⟩

theorem comparedOption?_eq_some_iff {t : Text} :
    f.comparedOption? = some t ↔ f.operator ∈ optionOperators ∧ f.value = .string t := by
  unfold comparedOption?
  by_cases hoperator : f.operator ∈ optionOperators
  · rw [if_pos (List.contains_iff_mem.2 hoperator)]
    cases f.value <;> simp [hoperator]
  · rw [if_neg (mt List.contains_iff_mem.1 hoperator)]
    simp [hoperator]

theorem compares_iff {t : Text} :
    f.Compares p t ↔ p.isEnumerated = true ∧ f.comparedOption? = some t := by
  rw [comparedOption?_eq_some_iff, Property.isEnumerated, List.contains_iff_mem]
  constructor
  · rintro ⟨henumerated, hoperator, hvalue⟩
    exact ⟨henumerated, hoperator, hvalue⟩
  · rintro ⟨henumerated, hoperator, hvalue⟩
    exact ⟨henumerated, hoperator, hvalue⟩

theorem checkOption_eq_ok : f.checkOption p = .ok () ↔
    ∀ t, f.Compares p t → p.optionNames ≠ [] → t ∈ p.optionNames := by
  simp only [compares_iff]
  unfold checkOption
  cases hcompared : f.comparedOption? with
  | none => simp
  | some t =>
    simp only [Option.some.injEq]
    split
    · rename_i hmissing
      obtain ⟨henumerated, hne, hnot⟩ := hmissing
      constructor
      · intro h
        cases h
      · intro h
        exact absurd (h t ⟨henumerated, rfl⟩ hne) hnot
    · rename_i hfound
      constructor
      · rintro - _ ⟨henumerated, rfl⟩ hne
        exact Decidable.not_not.1 fun hnot => hfound ⟨henumerated, hne, hnot⟩
      · intro _
        rfl

theorem check_eq_ok_iff_fits : f.check schema = .ok () ↔ ∃ p, f.Fits schema p := by
  unfold FilterSpec.check
  constructor
  · intro h
    split at h
    · cases h
    rename_i p hproperty
    split at h
    · cases h
    rename_i types htypes
    split at h
    · rename_i htype
      exact ⟨p, schema.properties.find?_eq_some_iff.1 hproperty,
        ⟨types, find?_compatibleTypes.1 htypes, htype⟩, checkOption_eq_ok.1 h⟩
    · cases h
  · rintro ⟨p, hproperty, ⟨types, htypes, htype⟩, hoption⟩
    rw [schema.properties.find?_eq_some_iff.2 hproperty]
    simp only [find?_compatibleTypes.2 htypes, if_pos htype]
    exact checkOption_eq_ok.2 hoption

end FilterSpec

variable {schema : DatabaseSchema} {filters : List FilterSpec} {sort : Option SortSpec}

/-- The filters of a request fit the schema, and so does the property that it sorts by. -/
structure DatabaseSchema.Fits (schema : DatabaseSchema) (filters : List FilterSpec)
    (sort : Option SortSpec) : Prop where
  filters : ∀ f ∈ filters, ∃ p, f.Fits schema p
  sort : ∀ s ∈ sort, ∃ p, (s.property, p) ∈ schema.properties.entries

theorem DatabaseSchema.accepts_iff_fits :
    schema.Accepts filters sort ↔ schema.Fits filters sort := by
  have hkey (key : Text) :
      key ∈ schema.properties.keys ↔ ∃ p, (key, p) ∈ schema.properties.entries := by
    simp [Table.keys, Entries.keys]
  constructor
  · rintro ⟨hfilters, hsort⟩
    constructor
    · intro f hf
      exact FilterSpec.check_eq_ok_iff_fits.1 (hfilters f hf)
    · intro s hs
      exact (hkey _).1 (hsort s hs)
  · rintro ⟨hfilters, hsort⟩
    constructor
    · intro f hf
      exact FilterSpec.check_eq_ok_iff_fits.2 (hfilters f hf)
    · intro s hs
      exact (hkey _).2 (hsort s hs)

namespace Compiler

variable {c : Compiler} {name key id : Text} {now : Moment}

/-- Past validation only the calendar can stand in the way of a query. -/
theorem exists_compile_eq_ok (hfinds : c.Finds name key id) (haccepts : c.Accepts key filters sort)
    (hcalendar : ∀ f ∈ filters, ¬ f.PassesCalendar now) :
    ∃ kept, (c.compile name filters sort now).value = .ok ⟨id, kept, sort⟩ := by
  cases hleaves : (leaves now filters).value with
  | none =>
    obtain ⟨f, hf, hpasses⟩ := leaves_eq_none_iff.1 hleaves
    exact absurd hpasses (hcalendar f hf)
  | some kept =>
    exact ⟨kept, Yields.compile_eq (.query hfinds haccepts (leaves_eq_some_iff.1 hleaves))⟩

theorem accepts_of_compile {q : CompiledQuery} (hfinds : c.Finds name key id)
    (hquery : (c.compile name filters sort now).value = .ok q) : c.Accepts key filters sort := by
  rw [compile_value, resolve?_eq_some_iff.2 hfinds] at hquery
  apply check_eq_ok.1
  cases hcheck : (c.check key filters sort).value with
  | error e =>
    simp only [hcheck] at hquery
    cases hquery
  | ok _ => rfl

theorem not_passesCalendar_of_compile {q : CompiledQuery}
    (hquery : (c.compile name filters sort now).value = .ok q) :
    ∀ f ∈ filters, ¬ f.PassesCalendar now := by
  intro f hf hpasses
  have hleaves := leaves_eq_some_iff.2 (forall₂_leaf_of_compile hquery).1
  rw [leaves_eq_none_iff.2 ⟨f, hf, hpasses⟩] at hleaves
  cases hleaves

theorem accepts_iff_of_cached? (h : c.cached? key = some schema) :
    c.Accepts key filters sort ↔ schema.Accepts filters sort := by
  constructor
  · intro haccepts
    exact haccepts schema h
  · intro haccepts other hother
    rw [h] at hother
    cases hother
    exact haccepts

/-- Validation is sound, and refuses nothing else: a request for a database with a cached schema
compiles exactly when it fits the schema and its weeks do not pass the end of the calendar. -/
theorem compile_eq_ok_iff_fits (hfinds : c.Finds name key id)
    (hschema : c.cached? key = some schema) :
    (∃ q, (c.compile name filters sort now).value = .ok q) ↔
      schema.Fits filters sort ∧ ∀ f ∈ filters, ¬ f.PassesCalendar now := by
  rw [← DatabaseSchema.accepts_iff_fits, ← accepts_iff_of_cached? hschema]
  constructor
  · rintro ⟨q, hquery⟩
    exact ⟨accepts_of_compile hfinds hquery, not_passesCalendar_of_compile hquery⟩
  · rintro ⟨haccepts, hcalendar⟩
    obtain ⟨kept, hquery⟩ := exists_compile_eq_ok hfinds haccepts hcalendar
    exact ⟨_, hquery⟩

/-- A choice that has an option, and one that has none. -/
def choicesSchema : DatabaseSchema where
  id := "t1"
  title := "Tasks"
  properties := ⟨[("Stage", ⟨"s", "status", "Stage", some [⟨"1", "Done", "green"⟩]⟩),
    ("Team", ⟨"t", "select", "Team", some []⟩)], by decide⟩
  lastUpdated := default

/-- A database with two choices, at hand under its registered name. -/
def choices : Compiler where
  registry := dueDates.registry
  cache := some ⟨some ⟨[("Tasks", choicesSchema)], by decide⟩⟩

/-- What is done. -/
def isDone : FilterSpec := ⟨"Stage", "status", "equals", .string "Done"⟩

theorem compile_eq_ok_iff_fits_isDone :
    choices.Finds "Tasks" "Tasks" "t1" ∧ choices.cached? "Tasks" = some choicesSchema ∧
      (∃ q, (choices.compile "Tasks" [isDone] (some ⟨"Team", .ascending⟩) default).value = .ok q) ∧
      choicesSchema.Fits [isDone] (some ⟨"Team", .ascending⟩) := by
  have hfinds : choices.Finds "Tasks" "Tasks" "t1" := .registered (.exact List.mem_cons_self)
  have hquery : ∃ q,
      (choices.compile "Tasks" [isDone] (some ⟨"Team", .ascending⟩) default).value = .ok q :=
    ⟨_, rfl⟩
  exact ⟨hfinds, rfl, hquery, ((compile_eq_ok_iff_fits hfinds rfl).1 hquery).1⟩

/-- What belongs to a team that is no option, since there are none. -/
def ofNoTeam : FilterSpec := ⟨"Team", "select", "equals", .string "Red"⟩

/-- A text passes for a choice that it is no option of. -/
theorem compile_ofNoTeam : ∃ q p, choices.cached? "Tasks" = some choicesSchema ∧
    (choices.compile "Tasks" [ofNoTeam] none default).value = .ok q ∧
    (ofNoTeam.property, p) ∈ choicesSchema.properties.entries ∧ ofNoTeam.Compares p "Red" ∧
    ("Red" : Text) ∉ p.optionNames := by
  refine ⟨_, ⟨"t", "select", "Team", some []⟩, rfl, rfl, ?_, ⟨by decide, by decide, rfl⟩, by decide⟩
  exact List.mem_cons_of_mem _ List.mem_cons_self

end Compiler

end SchemaQuery
