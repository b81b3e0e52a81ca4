import SchemaQuery.Proofs.Filter.Leaf
import SchemaQuery.Request.Reader

/-!
# Leaves as they are sent

A leaf is sent as an object with two members, the property and one condition under the filter type,
and a filter that is not about dates can be read back from it. There is one exception: a condition
under the filter type `property` takes the place of the property, and the filters that differ in
their property alone are sent as the same leaf then.
-/

namespace SchemaQuery

namespace LeafFilter

variable {property filterType : Text} {operators : List (Text × Json)}

def propertyKey : Text := "property"

theorem condition_of_ne (h : filterType ≠ propertyKey) :
    condition property filterType operators =
      .object [(propertyKey, .string property), (filterType, .record operators)] := by
  have hkeys : (Entries.keys [(propertyKey, Json.string property),
      (filterType, .record operators)]).Nodup := by
    simpa [Entries.keys] using h.symm
  rw [condition, Json.record]
  exact congrArg Json.object (Entries.ofList_of_nodup hkeys)

theorem condition_propertyKey :
    condition property propertyKey operators = .object [(propertyKey, .record operators)] :=
  rfl

/-- A leaf has the form of a property with one condition under a filter type. -/
def HasForm (leaf : LeafFilter) (property filterType : Text) : Prop :=
  ∃ condition, leaf.toJson = .object [(propertyKey, .string property), (filterType, condition)]

theorem hasForm_iff {leaf : LeafFilter}
    (h : leaf.toJson = condition property filterType operators) :
    leaf.HasForm property filterType ↔ filterType ≠ propertyKey := by
  unfold HasForm
  rw [h]
  constructor
  · rintro ⟨c, hc⟩ rfl
    rw [condition_propertyKey] at hc
    simp at hc
  · intro hne
    exact ⟨_, condition_of_ne hne⟩

end LeafFilter

namespace FilterSpec

open LeafFilter

variable {f g : FilterSpec} {now : Moment} {leaf : LeafFilter}

theorem exists_condition_of_dateLeaf (h : (f.dateLeaf now).value = some leaf) :
    ∃ operators, leaf.toJson = condition f.property "date" operators := by
  have hdate := f.isDateLeaf_dateLeaf now
  rw [h] at hdate
  generalize hresult : some leaf = result at hdate
  cases hdate with
  | upcoming | week =>
    obtain ⟨week, -, rfl⟩ := Option.map_eq_some_iff.1 hresult.symm
    exact ⟨_, rfl⟩
  | date | given =>
    cases hresult
    exact ⟨_, rfl⟩

/-- A filter that is not about dates is sent with its operator and operand as they are. -/
theorem toJson_of_other (hdate : f.filterType ≠ "date") (h : (f.leaf now).value = some leaf) :
    leaf.toJson = condition f.property f.filterType [(f.operator, f.value)] := by
  rcases leaf_of_other now hdate with ⟨kind, hkind, hleaf⟩ | hleaf
  · rw [hleaf] at h
    cases h
    rw [← hkind]
    rfl
  · rw [hleaf] at h
    cases h
    rfl

theorem exists_condition (h : (f.leaf now).value = some leaf) :
    ∃ operators, leaf.toJson = condition f.property f.filterType operators := by
  by_cases hdate : f.filterType = "date"
  · rw [leaf_of_date hdate] at h
    rw [hdate]
    exact exists_condition_of_dateLeaf h
  · exact ⟨_, toJson_of_other hdate h⟩

/-- The filter that was sent as a leaf. -/
def ofLeaf? : Json → Option FilterSpec
  | .object [(_, .string property), (filterType, .object [(operator, value)])] =>
    some ⟨property, filterType, operator, value⟩
  | _ => none

theorem ofLeaf?_condition (h : f.filterType ≠ propertyKey) :
    ofLeaf? (condition f.property f.filterType [(f.operator, f.value)]) = some f := by
  rw [condition_of_ne h]
  rfl

/-- The filters that are sent as the same leaf as a filter that is not about dates. -/
def SentAlike (f g : FilterSpec) : Prop :=
  f.filterType = g.filterType ∧ f.operator = g.operator ∧ f.value = g.value ∧
    (f.property = g.property ∨ f.filterType = propertyKey)

theorem condition_eq_iff_sentAlike :
    condition f.property f.filterType [(f.operator, f.value)] =
      condition g.property g.filterType [(g.operator, g.value)] ↔ f.SentAlike g := by
  unfold SentAlike
  by_cases hf : f.filterType = propertyKey <;> by_cases hg : g.filterType = propertyKey
  · rw [hf, hg, condition_propertyKey, condition_propertyKey]
    simp [Json.record, Entries.ofList, Entries.insert]
  · rw [hf, condition_propertyKey, condition_of_ne hg]
    simp [Ne.symm hg]
  · rw [hg, condition_propertyKey, condition_of_ne hf]
    simp [hf]
  · constructor
    · intro heq
      have hread := ofLeaf?_condition hf
      rw [heq, ofLeaf?_condition hg] at hread
      cases hread
      exact ⟨rfl, rfl, rfl, .inl rfl⟩
    · rintro ⟨htype, hoperator, hvalue, hproperty⟩
      rw [htype, hoperator, hvalue, hproperty.resolve_right hf]

/-- A leaf has both its members unless the filter type is called `property`, and then a filter that
is not about dates is read back from it. Two such filters are sent as the same leaf exactly when
they are the same, up to the property that the filter type `property` loses. -/
theorem leaf_toJson_form (h : (f.leaf now).value = some leaf) :
    (leaf.HasForm f.property f.filterType ↔ f.filterType ≠ propertyKey) ∧
      (f.filterType ≠ "date" →
        (f.filterType ≠ propertyKey → ofLeaf? leaf.toJson = some f) ∧
        ∀ (g : FilterSpec) (later : Moment) (twin : LeafFilter), g.filterType ≠ "date" →
          (g.leaf later).value = some twin → (leaf.toJson = twin.toJson ↔ f.SentAlike g)) := by
  obtain ⟨operators, hleaf⟩ := exists_condition h
  refine ⟨hasForm_iff hleaf, fun hdate => ⟨fun hproperty => ?_, fun g later twin hg htwin => ?_⟩⟩
  · rw [toJson_of_other hdate h]
    exact ofLeaf?_condition hproperty
  · rw [toJson_of_other hdate h, toJson_of_other hg htwin]
    exact condition_eq_iff_sentAlike

def finished : FilterSpec := ⟨"Finished", "checkbox", "equals", .bool true⟩

theorem leaf_toJson_form_finished : ∃ leaf, (finished.leaf default).value = some leaf ∧
    leaf.HasForm "Finished" "checkbox" ∧ ofLeaf? leaf.toJson = some finished := by
  have hleaf : (finished.leaf default).value =
      some (.passedOn "Finished" "checkbox" "equals" (.bool true)) := rfl
  obtain ⟨hform, hback⟩ := leaf_toJson_form hleaf
  exact ⟨_, hleaf, hform.2 (by decide), (hback (by decide)).1 (by decide)⟩

/-- A condition on a property of the filter type that takes the place of the property. -/
def overwriting (property : Text) : Json :=
  .object [("property", .string property), ("filterType", .string propertyKey),
    ("operator", .string "equals"), ("value", .int 3)]

/-- Two properties are lost in the same leaf. -/
theorem leaf_overwriting : ∃ f g leaf twin,
    Request.checkFilter (overwriting "Size") = .valid f ∧
      Request.checkFilter (overwriting "Cost") = .valid g ∧ f.property ≠ g.property ∧
      (f.leaf default).value = some leaf ∧ (g.leaf default).value = some twin ∧
      leaf.toJson = .object [(propertyKey, .object [("equals", .int 3)])] ∧
      twin.toJson = leaf.toJson :=
  ⟨⟨"Size", propertyKey, "equals", .int 3⟩, ⟨"Cost", propertyKey, "equals", .int 3⟩, _, _,
    rfl, rfl, by decide, rfl, rfl, rfl, rfl⟩

end FilterSpec

end SchemaQuery
