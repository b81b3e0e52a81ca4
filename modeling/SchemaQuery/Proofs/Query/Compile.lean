import Mathlib.Data.List.Forall2
import SchemaQuery.Proofs.Filter.Leaf
import SchemaQuery.Proofs.Registry.Lookup
import SchemaQuery.Proofs.Schema.Check
import SchemaQuery.Query.Compile

/-!
# What requests compile to

A request fails for one of three reasons, and the earlier one wins: no database goes by its name, it
does not fit the cached schema of that database, or one of its weeks passes the end of the calendar.
So a last filter that does not fit comes before a first one that passes the calendar. Otherwise the
request becomes a query with one leaf for each filter.

The cached schema only decides whether a request passes. What it passes to is decided without it,
as long as the registry knows the database.
-/

namespace SchemaQuery.Compiler

variable {c : Compiler} {name key id : Text} {filters : List FilterSpec} {sort : Option SortSpec}
  {now : Moment} {e : CompileError} {q : CompiledQuery}

/-! ### The database -/

def cached? (c : Compiler) (name : Text) : Option DatabaseSchema := c.cache.bind (·.find? name)

/-- A name leads to a registered database, or else to a cached one that has exactly this name. -/
inductive Finds (c : Compiler) (name : Text) : Text → Text → Prop
  | registered {key id : Text} : c.registry.Finds name key id → Finds c name key id
  | cached {schema : DatabaseSchema} :
    (∀ key ∈ c.registry.ids.keys, key.caseFold ≠ name.caseFold) → c.cached? name = some schema →
    Finds c name name schema.id

theorem resolve?_eq_some_iff : c.resolve? name = some (key, id) ↔ c.Finds name key id := by
  unfold resolve?
  cases hregistry : c.registry.resolve? name with
  | some found =>
    obtain ⟨key', id'⟩ := found
    have hfound := Registry.resolve?_eq_some_iff.1 hregistry
    constructor
    · rintro ⟨⟩
      exact .registered hfound
    · intro hfinds
      cases hfinds with
      | registered hfinds => rw [← Registry.resolve?_eq_some_iff.2 hfinds, hregistry]
      | cached hnone => rw [Registry.resolve?_eq_none_iff.2 hnone] at hregistry; cases hregistry
  | none =>
    have hnone := Registry.resolve?_eq_none_iff.1 hregistry
    simp only [Option.map_eq_some_iff, Prod.mk.injEq]
    constructor
    · rintro ⟨schema, hschema, rfl, rfl⟩
      exact .cached hnone hschema
    · intro hfinds
      cases hfinds with
      | registered hfinds =>
        rw [Registry.resolve?_eq_some_iff.2 hfinds] at hregistry
        cases hregistry
      | cached _ hschema => exact ⟨_, hschema, rfl, rfl⟩

theorem resolve?_eq_none_iff : c.resolve? name = none ↔ ∀ key id, ¬ c.Finds name key id := by
  simp only [← resolve?_eq_some_iff]
  constructor
  · intro hnone key id hsome
    rw [hnone] at hsome
    cases hsome
  · intro hnot
    rw [Option.eq_none_iff_forall_ne_some]
    rintro ⟨key, id⟩
    exact hnot key id

/-- The name under which a database was found finds it again. -/
theorem resolve?_of_resolve? (h : c.resolve? name = some (key, id)) :
    c.resolve? key = some (key, id) := by
  cases resolve?_eq_some_iff.1 h with
  | registered hfinds =>
    exact resolve?_eq_some_iff.2 (.registered (.exact hfinds.mem))
  | cached => exact h

/-! ### The leaves -/

theorem leaves_cons (now : Moment) (f : FilterSpec) (filters : List FilterSpec) :
    (leaves now (f :: filters)).value =
      (f.leaf now).value.bind fun leaf => (leaves now filters).value.map (leaf :: ·) := by
  cases hleaf : (f.leaf now).value with
  | none => simp [Compiler.leaves, hleaf]
  | some leaf => simp [Compiler.leaves, hleaf]

theorem leaves_eq_some_iff {kept : List LeafFilter} :
    (leaves now filters).value = some kept ↔
      List.Forall₂ (fun f leaf => (f.leaf now).value = some leaf) filters kept := by
  induction filters generalizing kept with
  | nil =>
    rw [List.forall₂_nil_left_iff]
    constructor
    · rintro ⟨⟩
      rfl
    · rintro rfl
      rfl
  | cons f filters ih =>
    rw [leaves_cons, List.forall₂_cons_left_iff, Option.bind_eq_some_iff]
    simp only [Option.map_eq_some_iff, ih]
    constructor
    · rintro ⟨leaf, hleaf, rest, hrest, rfl⟩
      exact ⟨leaf, rest, hleaf, hrest, rfl⟩
    · rintro ⟨leaf, rest, hleaf, hrest, rfl⟩
      exact ⟨leaf, hleaf, rest, hrest, rfl⟩

theorem leaves_eq_none_iff :
    (leaves now filters).value = none ↔ ∃ f ∈ filters, f.PassesCalendar now := by
  induction filters with
  | nil => simp [Compiler.leaves]
  | cons f filters ih =>
    rw [leaves_cons, Option.bind_eq_none_iff, List.exists_mem_cons_iff, ← ih,
      ← FilterSpec.leaf_eq_none_iff]
    cases hleaf : (f.leaf now).value <;> simp

/-! ### The outcome -/

/-- A request fits if there is no schema that it would have to fit. -/
def Accepts (c : Compiler) (name : Text) (filters : List FilterSpec) (sort : Option SortSpec) :
    Prop :=
  ∀ schema, c.cached? name = some schema → schema.Accepts filters sort

theorem check_eq_ok : (c.check name filters sort).value = .ok () ↔ c.Accepts name filters sort := by
  unfold check Accepts cached?
  cases c.cache with
  | none => simp
  | some cache =>
    simp only [Option.bind_some]
    cases cache.find? name with
    | none => simp [Logged.withEvent]
    | some schema => simp [DatabaseSchema.checkRequest_eq_ok]

theorem check_eq_error {e : FitError} : (c.check name filters sort).value = .error e ↔
    ∃ schema, c.cached? name = some schema ∧ schema.Refuses filters sort e := by
  unfold check cached?
  cases c.cache with
  | none => simp
  | some cache =>
    simp only [Option.bind_some]
    cases cache.find? name with
    | none => simp [Logged.withEvent]
    | some schema => simp [DatabaseSchema.checkRequest_eq_error]

theorem compile_value : (c.compile name filters sort now).value =
    match c.resolve? name with
    | none => .error (.unknownDatabase name)
    | some (key, id) =>
      match (c.check key filters sort).value with
      | .error e => .error (.misfit e)
      | .ok () =>
        match (leaves now filters).value with
        | none => .error .pastCalendar
        | some kept => .ok ⟨id, kept, sort⟩ := by
  cases hresolve : c.resolve? name with
  | none => simp only [compile, hresolve, Logged.pure_value]
  | some found =>
    obtain ⟨key, id⟩ := found
    cases hcheck : (c.check key filters sort).value with
    | error e => simp only [compile, hresolve, Logged.bind_value, hcheck, Logged.pure_value]
    | ok _ =>
      cases hleaves : (leaves now filters).value with
      | none =>
        simp only [compile, hresolve, Logged.bind_value, hcheck, hleaves, Logged.pure_value]
      | some kept =>
        simp only [compile, hresolve, Logged.bind_value, hcheck, hleaves, Logged.pure_value]

/-- The outcome of compiling a request. -/
inductive Yields (c : Compiler) (name : Text) (filters : List FilterSpec) (sort : Option SortSpec)
    (now : Moment) : Except CompileError CompiledQuery → Prop
  | unknown : (∀ key id, ¬ c.Finds name key id) →
    Yields c name filters sort now (.error (.unknownDatabase name))
  | misfit {key id : Text} {schema : DatabaseSchema} {e : FitError} : c.Finds name key id →
    c.cached? key = some schema → schema.Refuses filters sort e →
    Yields c name filters sort now (.error (.misfit e))
  | pastCalendar {key id : Text} {f : FilterSpec} : c.Finds name key id →
    c.Accepts key filters sort → f ∈ filters → f.PassesCalendar now →
    Yields c name filters sort now (.error .pastCalendar)
  /-- Each filter has a leaf, and the leaves stand in the order of the filters. -/
  | query {key id : Text} {kept : List LeafFilter} : c.Finds name key id →
    c.Accepts key filters sort →
    List.Forall₂ (fun f leaf => (f.leaf now).value = some leaf) filters kept →
    Yields c name filters sort now (.ok ⟨id, kept, sort⟩)

variable {outcome : Except CompileError CompiledQuery}

theorem yields_compile (c : Compiler) (name : Text) (filters : List FilterSpec)
    (sort : Option SortSpec) (now : Moment) :
    c.Yields name filters sort now (c.compile name filters sort now).value := by
  rw [compile_value]
  cases hresolve : c.resolve? name with
  | none => exact .unknown (resolve?_eq_none_iff.1 hresolve)
  | some found =>
    obtain ⟨key, id⟩ := found
    have hfinds := resolve?_eq_some_iff.1 hresolve
    simp only
    cases hcheck : (c.check key filters sort).value with
    | error e =>
      obtain ⟨schema, hschema, hrefuses⟩ := check_eq_error.1 hcheck
      exact .misfit hfinds hschema hrefuses
    | ok _ =>
      have haccepts := check_eq_ok.1 hcheck
      simp only
      cases hleaves : (leaves now filters).value with
      | none =>
        obtain ⟨f, hf, hpasses⟩ := leaves_eq_none_iff.1 hleaves
        exact .pastCalendar hfinds haccepts hf hpasses
      | some kept => exact .query hfinds haccepts (leaves_eq_some_iff.1 hleaves)

theorem Yields.compile_eq (h : c.Yields name filters sort now outcome) :
    (c.compile name filters sort now).value = outcome := by
  rw [compile_value]
  cases h with
  | unknown hnone => rw [resolve?_eq_none_iff.2 hnone]
  | misfit hfinds hschema hrefuses =>
    simp only [resolve?_eq_some_iff.2 hfinds, check_eq_error.2 ⟨_, hschema, hrefuses⟩]
  | pastCalendar hfinds haccepts hf hpasses =>
    simp only [resolve?_eq_some_iff.2 hfinds, check_eq_ok.2 haccepts,
      leaves_eq_none_iff.2 ⟨_, hf, hpasses⟩]
  | query hfinds haccepts hleaves =>
    simp only [resolve?_eq_some_iff.2 hfinds, check_eq_ok.2 haccepts,
      leaves_eq_some_iff.2 hleaves]

/-- A query has a leaf for each filter of its request, and the request's order. -/
theorem forall₂_leaf_of_compile (h : (c.compile name filters sort now).value = .ok q) :
    List.Forall₂ (fun f leaf => (f.leaf now).value = some leaf) filters q.filters ∧
      q.sort = sort := by
  have hyields := c.yields_compile name filters sort now
  rw [h] at hyields
  cases hyields with
  | query _ _ hleaves => exact ⟨hleaves, rfl⟩

/-- Schemas at hand are a gate: what passes it for a registered name is what the same request comes
to when no schemas are at hand. -/
theorem compile_without_cache (h : ∃ key ∈ c.registry.ids.keys, key.caseFold = name.caseFold)
    (hquery : (c.compile name filters sort now).value = .ok q) :
    (Compiler.compile ⟨c.registry, none⟩ name filters sort now).value = .ok q := by
  have hyields := c.yields_compile name filters sort now
  rw [hquery] at hyields
  cases hyields with
  | query hfinds _ hleaves =>
    cases hfinds with
    | registered hfinds =>
      exact Yields.compile_eq (.query (.registered hfinds) (fun _ hnone => nomatch hnone) hleaves)
    | cached hnone =>
      obtain ⟨key, hkey, hfold⟩ := h
      exact absurd hfold (hnone key hkey)

/-- A request compiles to exactly one outcome. For a name that the registry knows, every cache that
lets the request pass gives the same query as no cache. -/
theorem compile_eq_iff_yields (c : Compiler) (name : Text) (filters : List FilterSpec)
    (sort : Option SortSpec) (now : Moment) :
    (∀ outcome, (c.compile name filters sort now).value = outcome ↔
      c.Yields name filters sort now outcome) ∧
    ((∃ key ∈ c.registry.ids.keys, key.caseFold = name.caseFold) →
      ∀ q, (c.compile name filters sort now).value = .ok q →
        (Compiler.compile ⟨c.registry, none⟩ name filters sort now).value = .ok q) := by
  refine ⟨fun outcome => ⟨?_, Yields.compile_eq⟩, fun h q => compile_without_cache h⟩
  rintro rfl
  exact c.yields_compile name filters sort now

def dueDateSchema : DatabaseSchema where
  id := "t1"
  title := "Tasks"
  properties := ⟨[("Due", ⟨"d", "date", "Due", none⟩)], by decide⟩
  lastUpdated := ⟨Date.last, .midnight, none⟩

/-- A database with nothing but a due date, at hand under its registered name. -/
def dueDates : Compiler where
  registry := ⟨⟨[("Tasks", "t1")], by decide⟩⟩
  cache := some ⟨some ⟨[("Tasks", dueDateSchema)], by decide⟩⟩

/-- The upcoming week, which the calendar does not have any more on its last day, and then a
property that does not exist. -/
def missingLast : List FilterSpec :=
  [⟨"Due", "date", FilterSpec.nextWeek, .null⟩, ⟨"Owner", "people", "contains", .string "me"⟩]

theorem compile_eq_iff_yields_missingLast :
    (∃ f ∈ missingLast, f.PassesCalendar ⟨Date.last, .midnight, none⟩) ∧
      (dueDates.compile "tasks" missingLast none ⟨Date.last, .midnight, none⟩).value =
        .error (.misfit (.unknownProperty "Owner" "Tasks")) := by
  constructor
  · refine ⟨_, List.mem_cons_self, .upcoming rfl rfl Date.last.isLeast_nextMondayOrdinal ?_⟩
    decide
  · have hname : ("Tasks" : Text).caseFold = ("tasks" : Text).caseFold := by decide
    have hfinds : dueDates.Finds "tasks" "Tasks" "t1" :=
      .registered (.folded [] [] (by decide) rfl hname
        (fun _ hlater => nomatch hlater) List.mem_cons_self)
    have hrefuses : dueDateSchema.Refuses missingLast none (.unknownProperty "Owner" "Tasks") :=
      .filter (missingLast.take 1) [] rfl
        (fun f hf => List.mem_singleton.1 hf ▸ rfl) rfl
    exact ((compile_eq_iff_yields dueDates "tasks" missingLast none _).1 _).2
      (.misfit hfinds rfl hrefuses)

end SchemaQuery.Compiler
