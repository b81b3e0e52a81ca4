import SchemaQuery.Proofs.Filter.Serialized
import SchemaQuery.Proofs.Query.Document
import SchemaQuery.Proofs.Query.Validation
import SchemaQuery.Proofs.Request.Reader
import SchemaQuery.Proofs.Text.Join
import SchemaQuery.Schema.Description

/-!
# Asking for what is offered

The description of the cached schemas offers every registered database with its properties, under
their names. A request may ask for each of them by each filter type that applies to it, as long as
the names are names that a request can spell. Requests strip white space and refuse texts that are
empty or have no encoding, while the registry and the schemas keep any text; so a name of another
kind is described, but a request that gives it is refused or is read as one for another name.
-/

namespace SchemaQuery

/-! ### The description -/

/-- The description has a paragraph for the database, and in it a line for the property. -/
def Snapshot.Describes (s : Snapshot) (name key : Text) : Prop :=
  ∃ paragraph : Text, paragraph <:+: s.describe ∧
    List.flatten [name, " - Contains "] <+: paragraph ∧
    List.flatten ["   - ", key, " ("] <:+: paragraph

theorem Snapshot.describes_of_mem {s : Snapshot} {schema : DatabaseSchema} {p : Property}
    {name key : Text} (hschema : s.find? name = some schema)
    (hp : (key, p) ∈ schema.properties.entries) : s.Describes name key := by
  let line (e : Text × Property) : Text := List.flatten ["   - ", e.1, " (", e.2.describe, ")"]
  have hdescribe : schema.describe name = List.flatten [name, " - Contains "] ++
      (List.flatten [name, " information with properties:\n"] ++
        Text.join "\n" (schema.properties.entries.map line)) := by
    simp [DatabaseSchema.describe, line]
  have hline : line (key, p) <:+: Text.join "\n" (schema.properties.entries.map line) :=
    Text.isInfix_join (List.mem_map_of_mem hp) "\n"
  have hlead : List.flatten ["   - ", key, " ("] <:+: line (key, p) :=
    ⟨[], List.flatten [p.describe, ")"], by simp [line]⟩
  refine ⟨schema.describe name, ?_, ?_, ?_⟩
  · apply Text.isInfix_join
    exact List.mem_map.2 ⟨(name, schema), s.find?_eq_some_iff.1 hschema, rfl⟩
  · rw [hdescribe]
    exact List.prefix_append _ _
  · rw [hdescribe]
    apply (hlead.trans hline).trans
    rw [← List.append_assoc]
    exact (List.suffix_append _ _).isInfix

namespace Request

/-- A filter as an item: a property is filled. -/
def filledItem (key filterType : Text) : Json :=
  .record [("property", .string key), ("filterType", .string filterType),
    ("operator", .string "is_not_empty"), ("value", .bool true)]

/-- The document that asks for the rows in which a property is filled, in the order of the
property. -/
def whereFilled (database key filterType : Text) : Json :=
  .record [("database", .string database), ("filters", .array [filledItem key filterType]),
    ("sort", .record [("property", .string key)])]

def asked (database key filterType : Text) : QueryRequest :=
  ⟨database, [⟨key, filterType, "is_not_empty", .bool true⟩], some ⟨key, .ascending⟩⟩

theorem checkFilter_filledItem (key filterType : Text) :
    checkFilter (filledItem key filterType) =
      (FilterSpec.mk <$> (checkName (.string key)).within (.key "property")
        <*> (checkName (.string filterType)).within (.key "filterType")
        <*> .valid "is_not_empty" <*> .valid (.bool true) <* .valid ()) :=
  rfl

theorem check_whereFilled (database key filterType : Text) :
    check (whereFilled database key filterType) =
      (QueryRequest.mk <$> (checkName (.string database)).within (.key "database")
        <*> (Checked.items checkFilter [filledItem key filterType]).within (.key "filters")
        <*> (some <$> (SortSpec.mk <$> (checkName (.string key)).within (.key "property")
          <*> .valid .ascending <* .valid ())).within (.key "sort")
        <* .valid ()) :=
  rfl

variable {database key filterType : Text} {r : QueryRequest}

theorem checkFilter_filledItem_eq_valid (htype : IsName filterType) {f : FilterSpec} :
    checkFilter (filledItem key filterType) = .valid f ↔
      ∃ property, checkName (.string key) = .valid property ∧
        f = ⟨property, filterType, "is_not_empty", .bool true⟩ := by
  rw [checkFilter_filledItem, checkName_self_iff.2 htype]
  cases checkName (.string key) with
  | invalid issues =>
    constructor
    · intro h
      cases h
    · rintro ⟨_, ⟨⟩, -⟩
  | valid property =>
    constructor
    · rintro ⟨⟩
      exact ⟨property, rfl, rfl⟩
    · rintro ⟨_, ⟨⟩, rfl⟩
      rfl

theorem check_whereFilled_eq_valid (htype : IsName filterType) :
    check (whereFilled database key filterType) = .valid r ↔
      ∃ name property, checkName (.string database) = .valid name ∧
        checkName (.string key) = .valid property ∧ r = asked name property filterType := by
  rw [check_whereFilled]
  constructor
  · intro h
    have hfields := Checked.seqLeft_eq_valid h
    simp only [Checked.seq_eq_valid, Checked.map_eq_valid, Checked.within_eq_valid] at hfields
    obtain ⟨_, _, ⟨_, filters, ⟨name, hname, rfl⟩, hfilters, rfl⟩, ⟨s, hsort, rfl⟩, rfl⟩ := hfields
    obtain ⟨f, hitem, rfl⟩ := forall₂_singleton_left_iff.1 (Checked.items_eq_valid.1 hfilters)
    obtain ⟨property, hproperty, rfl⟩ := (checkFilter_filledItem_eq_valid htype).1 hitem
    rw [hproperty] at hsort
    cases hsort
    exact ⟨name, property, hname, hproperty, rfl⟩
  · rintro ⟨name, property, hname, hproperty, rfl⟩
    have hitem : checkFilter (filledItem key filterType) =
        .valid ⟨property, filterType, "is_not_empty", .bool true⟩ :=
      (checkFilter_filledItem_eq_valid htype).2 ⟨property, hproperty, rfl⟩
    have hitems : Checked.items checkFilter [filledItem key filterType] =
        .valid [⟨property, filterType, "is_not_empty", .bool true⟩] :=
      Checked.items_eq_valid.2 (.cons hitem .nil)
    rw [hname, hproperty, hitems]
    rfl

theorem read_unfenced_whereFilled (hdatabase : database.isScalar = true)
    (hkey : key.isScalar = true)
    (htype : filterType.isScalar = true) (escaping : Escaping) (layout : Layout) :
    Json.read (unfenced ((whereFilled database key filterType).writeAt escaping layout 0)) =
      .ok (whereFilled database key filterType) := by
  have hitem : (filledItem key filterType).IsReadable escaping := by
    apply Json.IsReadable.record_of_isScalar
    · simp
    · simp [Json.IsReadable.string, Json.IsReadable.bool, hkey, htype]
  have hitems : (Json.array [filledItem key filterType]).IsReadable escaping :=
    .array (by simpa using hitem)
  have hsort : (Json.record [("property", .string key)]).IsReadable escaping := by
    apply Json.IsReadable.record_of_isScalar
    · simp
    · simp [Json.IsReadable.string, hkey]
  have hreadable : (whereFilled database key filterType).IsReadable escaping := by
    apply Json.IsReadable.record_of_isScalar
    · simp
    · simp [Json.IsReadable.string, hdatabase, hitems, hsort]
  rw [whereFilled, Json.record, unfenced_writeAt_object]
  exact hreadable.read_writeAt layout

end Request

namespace FilterSpec

variable {f : FilterSpec} {now : Moment} {leaf : LeafFilter}

/-- A filter whose operand is no text, and that does not ask for the upcoming week, is sent as it
is. -/
theorem toJson_of_given (hoperator : f.operator ≠ nextWeek) (hvalue : ∀ t, f.value ≠ .string t)
    (h : (f.leaf now).value = some leaf) :
    leaf.toJson = LeafFilter.condition f.property f.filterType [(f.operator, f.value)] := by
  by_cases hdate : f.filterType = "date"
  · rw [leaf_of_date hdate, dateLeaf_given hoperator fun t ht => absurd ht (hvalue t)] at h
    cases h
    rw [hdate]
    rfl
  · exact toJson_of_other hdate h

theorem not_passesCalendar_of_given (hoperator : f.operator ≠ nextWeek)
    (hvalue : ∀ t, f.value ≠ .string t) : ¬ f.PassesCalendar now := by
  intro h
  cases h with
  | upcoming _ hnext => exact hoperator hnext
  | phrase _ _ htext => exact hvalue _ htext

/-- The types that apply to a property are names, and none is called like the property's key. -/
theorem Applies.isName {filterType : Text} {p : Property} (h : Applies filterType p) :
    Request.IsName filterType ∧ filterType ≠ LeafFilter.propertyKey := by
  have hall : ∀ e ∈ compatibleTypes, (e.1.isScalar = true ∧ e.1 ≠ [] ∧ e.1.stripped = e.1) ∧
      e.1 ≠ LeafFilter.propertyKey := by
    decide
  obtain ⟨types, htypes, -⟩ := h
  obtain ⟨hname, hne⟩ := hall _ htypes
  exact ⟨Request.isName_iff.2 hname, hne⟩

end FilterSpec

namespace Compiler

open Request (IsName whereFilled asked)

variable {c : Compiler} {name id key filterType t : Text} {now : Moment}

/-- A registered database is at hand with this property, which filters of this type apply to. -/
structure Offers (c : Compiler) (name id key filterType : Text) : Prop where
  registered : (name, id) ∈ c.registry.ids.entries
  cached : ∃ schema p, c.cached? name = some schema ∧ (key, p) ∈ schema.properties.entries ∧
    FilterSpec.Applies filterType p

/-- A text is a request for the database, and compiles to a query of it whose only leaf and whose
order name the property. -/
def Answers (c : Compiler) (t : Text) (now : Moment) (name id key filterType : Text) : Prop :=
  ∃ r q leaf, Request.read t = .ok r ∧ r.database = name ∧
    (c.compile r.database r.filters r.sort now).value = .ok q ∧ q.databaseId = id ∧
    q.filters = [leaf] ∧
    leaf.toJson = .object [("property", .string key),
      (filterType, .object [("is_not_empty", .bool true)])] ∧
    q.sort = some ⟨key, .ascending⟩

theorem Offers.describes (h : c.Offers name id key filterType) :
    ∃ snapshot, c.cache = some ⟨some snapshot⟩ ∧ snapshot.Describes name key := by
  obtain ⟨schema, p, hschema, hp, -⟩ := h.cached
  obtain ⟨⟨snapshot⟩, hcache, hfind⟩ := Option.bind_eq_some_iff.1 hschema
  obtain ⟨snapshot, rfl, hfind⟩ := Option.bind_eq_some_iff.1 hfind
  exact ⟨snapshot, hcache, Snapshot.describes_of_mem hfind hp⟩

theorem Offers.accepts (h : c.Offers name id key filterType) :
    c.Accepts name (asked name key filterType).filters (asked name key filterType).sort := by
  obtain ⟨schema, p, hschema, hp, happlies⟩ := h.cached
  have hoperator : ("is_not_empty" : Text) ∉ FilterSpec.optionOperators := by decide
  rw [accepts_iff_of_cached? hschema, DatabaseSchema.accepts_iff_fits]
  constructor
  · intro f hf
    obtain rfl := List.mem_singleton.1 hf
    exact ⟨p, hp, happlies, fun t hcompares => absurd hcompares.operator hoperator⟩
  · rintro s ⟨⟩
    exact ⟨p, hp⟩

theorem Offers.exists_compile (h : c.Offers name id key filterType) (now : Moment) :
    ∃ leaf, (c.compile name (asked name key filterType).filters (asked name key filterType).sort
        now).value = .ok ⟨id, [leaf], some ⟨key, .ascending⟩⟩ ∧
      leaf.toJson = .object [("property", .string key),
        (filterType, .object [("is_not_empty", .bool true)])] := by
  have hoperator : ("is_not_empty" : Text) ≠ FilterSpec.nextWeek := by decide
  have hvalue (t : Text) : Json.bool true ≠ .string t := nofun
  have hcalendar : ∀ f ∈ (asked name key filterType).filters, ¬ f.PassesCalendar now := by
    intro f hf
    obtain rfl := List.mem_singleton.1 hf
    exact FilterSpec.not_passesCalendar_of_given hoperator hvalue
  obtain ⟨kept, hquery⟩ :=
    exists_compile_eq_ok (.registered (.exact h.registered)) h.accepts hcalendar
  obtain ⟨leaf, hleaf, rfl⟩ := forall₂_singleton_left_iff.1 (forall₂_leaf_of_compile hquery).1
  refine ⟨leaf, hquery, ?_⟩
  obtain ⟨_, _, _, _, happlies⟩ := h.cached
  rw [FilterSpec.toJson_of_given hoperator hvalue hleaf,
    LeafFilter.condition_of_ne happlies.isName.2]
  rfl

/-- A schema with a name of two words, and with the same word twice, once between spaces. -/
def spacedSchema : DatabaseSchema where
  id := "t1"
  title := "Team tasks"
  properties := ⟨[("Due date", ⟨"a", "date", "Due date", none⟩),
    (" Due ", ⟨"b", "created_time", " Due ", none⟩)], by decide⟩
  lastUpdated := default

/-- A database with names that have spaces in them. -/
def spaced : Compiler where
  registry := ⟨⟨[("Team tasks", "t1")], by decide⟩⟩
  cache := some ⟨some ⟨[("Team tasks", spacedSchema)], by decide⟩⟩

end Compiler

end SchemaQuery
