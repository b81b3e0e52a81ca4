import SchemaQuery.Proofs.Calendar.Written
import SchemaQuery.Proofs.Filter.Serialized
import SchemaQuery.Proofs.Json.Decoded
import SchemaQuery.Proofs.Schema.Scalar
import SchemaQuery.Query

/-!
# Queries as documents

The document of a query and what is sent of it are read back from their texts. What is sent is the
document without the id, and without the filter when there are no conditions.
-/

namespace SchemaQuery

namespace Json

/-- Keys without surrogates never stand in the way. -/
theorem IsReadable.record_of_isScalar {escaping : Escaping} {writes : List (Text × Json)}
    (hkeys : ∀ e ∈ writes, e.1.isScalar = true) (h : ∀ e ∈ writes, e.2.IsReadable escaping) :
    (Json.record writes).IsReadable escaping :=
  .object (Entries.nodup_keys_ofList writes)
    (fun key hkey => by
      obtain ⟨e, he, rfl⟩ := List.mem_map.1 hkey
      exact .inr (hkeys e (Entries.mem_of_mem_ofList he)))
    fun e he => h e (Entries.mem_of_mem_ofList he)

end Json

variable {escaping : Escaping}

namespace LeafFilter

theorem isReadable_condition {property filterType : Text} {operators : List (Text × Json)}
    (hproperty : property.isScalar = true) (htype : filterType.isScalar = true)
    (hkeys : ∀ e ∈ operators, e.1.isScalar = true)
    (hvalues : ∀ e ∈ operators, e.2.IsReadable escaping) :
    (condition property filterType operators).IsReadable escaping := by
  have hoperators : (Json.record operators).IsReadable escaping :=
    .record_of_isScalar hkeys hvalues
  apply Json.IsReadable.record_of_isScalar
  · simp [htype]
  · simp [Json.IsReadable.string, hproperty, hoperators]

theorem isReadable_inWeek {property : Text} (h : property.isScalar = true) (week : Week) :
    (inWeek property week).toJson.IsReadable escaping :=
  isReadable_condition h rfl (by simp) (by simp [Json.IsReadable.string, Date.isScalar_write])

end LeafFilter

/-- The names in a filter hold no surrogates, and its value is read back. -/
structure FilterSpec.IsReadable (escaping : Escaping) (f : FilterSpec) : Prop where
  property : f.property.isScalar = true
  filterType : f.filterType.isScalar = true
  operator : f.operator.isScalar = true
  value : f.value.IsReadable escaping

namespace FilterSpec.IsReadable

variable {f : FilterSpec} {now : Moment} {l : LeafFilter}

/-- One operator of a filter with a value. -/
theorem condition (h : f.IsReadable escaping) {filterType : Text} {v : Json}
    (htype : filterType.isScalar = true) (hv : v.IsReadable escaping) :
    (LeafFilter.condition f.property filterType [(f.operator, v)]).IsReadable escaping :=
  LeafFilter.isReadable_condition h.property htype (by simp [h.operator]) (by simp [hv])

theorem dateLeaf (h : f.IsReadable escaping) (hleaf : (f.dateLeaf now).value = some l) :
    l.toJson.IsReadable escaping := by
  have hdate := f.isDateLeaf_dateLeaf now
  rw [hleaf] at hdate
  generalize hresult : some l = result at hdate
  cases hdate with
  | upcoming | week =>
    obtain ⟨week, -, rfl⟩ := Option.map_eq_some_iff.1 hresult.symm
    exact LeafFilter.isReadable_inWeek h.property week
  | date =>
    cases hresult
    exact h.condition rfl (.string (.inr (Date.isScalar_write _)))
  | given =>
    cases hresult
    exact h.condition rfl h.value

theorem leaf (h : f.IsReadable escaping) (hleaf : (f.leaf now).value = some l) :
    l.toJson.IsReadable escaping := by
  by_cases hdate : f.filterType = "date"
  · rw [leaf_of_date hdate] at hleaf
    exact h.dateLeaf hleaf
  · rw [toJson_of_other hdate hleaf]
    exact h.condition h.filterType h.value

end FilterSpec.IsReadable

namespace CompiledQuery

variable {q : CompiledQuery}

/-- The texts of a query hold no surrogates, and its leaves are read back. -/
structure IsReadable (escaping : Escaping) (q : CompiledQuery) : Prop where
  databaseId : q.databaseId.isScalar = true
  filters : ∀ leaf ∈ q.filters, leaf.toJson.IsReadable escaping
  sort : ∀ s ∈ q.sort, s.property.isScalar = true

def members (q : CompiledQuery) : Entries Json :=
  ("databaseId", .string q.databaseId) :: ("filter", q.filterJson) :: q.sorts

theorem toJson_eq (q : CompiledQuery) : q.toJson = .object q.members := by
  have hnodup : (Entries.keys q.members).Nodup := by
    unfold members sorts
    cases q.sort <;> simp [Entries.keys] <;> decide
  rw [toJson, Json.record]
  exact congrArg Json.object (Entries.ofList_of_nodup hnodup)

def asksNothing (v : Json) : Bool :=
  match v.member? "and" with
  | some (.array []) => true
  | _ => false

/-- The members of a document that are sent: all but the id, and but a filter without conditions. -/
def sent (members : Entries Json) : Entries Json :=
  members.filter fun e => e.1 ≠ "databaseId" ∧ ¬ (e.1 = "filter" ∧ asksNothing e.2 = true)

theorem asksNothing_filterJson : asksNothing q.filterJson = q.filters.isEmpty := by
  unfold asksNothing filterJson
  cases q.filters <;> rfl

theorem sent_sorts : sent q.sorts = q.sorts := by
  unfold sent sorts
  cases q.sort with
  | none => rfl
  | some s =>
    have hkey : ("sorts" : Text) ≠ "databaseId" ∧ ("sorts" : Text) ≠ "filter" := by decide
    simp [hkey]

theorem nodup_filter_sorts (q : CompiledQuery) :
    (Entries.keys (("filter", q.filterJson) :: q.sorts)).Nodup := by
  unfold sorts
  cases q.sort with
  | none => simp [Entries.keys]
  | some s =>
    have hkey : ("filter" : Text) ≠ "sorts" := by decide
    simp [Entries.keys, hkey]

theorem sent_members (q : CompiledQuery) :
    sent q.members =
      if q.filters.isEmpty then q.sorts else ("filter", q.filterJson) :: q.sorts := by
  have hkey : ("filter" : Text) ≠ "databaseId" := by decide
  cases hempty : q.filters.isEmpty with
  | true =>
    rw [sent, members, List.filter_cons_of_neg (by simp),
      List.filter_cons_of_neg (by simp [asksNothing_filterJson, hempty])]
    exact sent_sorts
  | false =>
    rw [sent, members, List.filter_cons_of_neg (by simp),
      List.filter_cons_of_pos (by simp [asksNothing_filterJson, hempty, hkey])]
    exact congrArg (_ :: ·) sent_sorts

theorem requestBody_eq (q : CompiledQuery) : q.requestBody = .object (sent q.members) := by
  have hnodup := q.nodup_filter_sorts
  have hsorts : (Entries.keys q.sorts).Nodup := (List.nodup_cons.1 hnodup).2
  rw [requestBody, sent_members, Json.record]
  split
  · rw [Entries.ofList_of_nodup hsorts]
  · rw [Entries.ofList_of_nodup hnodup]

theorem find?_databaseId_members (q : CompiledQuery) :
    Entries.find? "databaseId" q.members = some (.string q.databaseId) := by
  simp [members, Entries.find?]

theorem find?_filter_members (q : CompiledQuery) :
    Entries.find? "filter" q.members =
      some (.object [("and", .array (q.filters.map LeafFilter.toJson))]) := by
  have hkey : ("databaseId" : Text) ≠ "filter" := by decide
  simp only [members, Entries.find?, hkey, if_false, if_true]
  rfl

theorem find?_filter_sent (h : q.filters ≠ []) :
    Entries.find? "filter" (sent q.members) = Entries.find? "filter" q.members := by
  have hempty : q.filters.isEmpty = false := by simpa using h
  rw [find?_filter_members, sent_members, if_neg (by simp [hempty])]
  simp only [Entries.find?, if_true]
  rfl

theorem IsReadable.sorts (h : q.IsReadable escaping) :
    (∀ e ∈ q.sorts, e.1.isScalar = true) ∧ ∀ e ∈ q.sorts, e.2.IsReadable escaping := by
  unfold CompiledQuery.sorts
  cases hsort : q.sort with
  | none => simp
  | some s =>
    have hdirection : Text.isScalar s.direction.name = true := by cases s.direction <;> rfl
    have hs : s.toJson.IsReadable escaping := by
      apply Json.IsReadable.record_of_isScalar
      · simp
      · simp [Json.IsReadable.string, h.sort s hsort, hdirection]
    have harray : (Json.array [s.toJson]).IsReadable escaping := .array (by simpa using hs)
    simp [harray]

theorem IsReadable.filterJson (h : q.IsReadable escaping) : q.filterJson.IsReadable escaping := by
  have harray : (Json.array (q.filters.map LeafFilter.toJson)).IsReadable escaping := by
    refine .array fun v hv => ?_
    obtain ⟨leaf, hleaf, rfl⟩ := List.mem_map.1 hv
    exact h.filters leaf hleaf
  apply Json.IsReadable.record_of_isScalar
  · simp
  · simpa using harray

theorem IsReadable.toJson (h : q.IsReadable escaping) : q.toJson.IsReadable escaping := by
  obtain ⟨hkeys, hvalues⟩ := h.sorts
  apply Json.IsReadable.record_of_isScalar
  · simpa using fun key v => hkeys (key, v)
  · simpa [Json.IsReadable.string, h.databaseId, h.filterJson] using fun key v => hvalues (key, v)

theorem IsReadable.requestBody (h : q.IsReadable escaping) :
    q.requestBody.IsReadable escaping := by
  obtain ⟨hkeys, hvalues⟩ := h.sorts
  unfold CompiledQuery.requestBody
  split
  · exact .record_of_isScalar hkeys hvalues
  · apply Json.IsReadable.record_of_isScalar
    · simpa using fun key v => hkeys (key, v)
    · simpa [h.filterJson] using fun key v => hvalues (key, v)

end CompiledQuery

end SchemaQuery
