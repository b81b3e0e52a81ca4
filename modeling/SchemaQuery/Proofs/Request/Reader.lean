import SchemaQuery.Proofs.Json.Decoded
import SchemaQuery.Proofs.Request.Format
import SchemaQuery.Proofs.Text.Trim

/-!
# What accepted requests hold

Every filter of a request stands for one item of its document, in order, and has the value of that
item. Its names are stripped texts without surrogates, so a name is accepted as it stands when there
is nothing to strip off it.
-/

namespace SchemaQuery

namespace Request

variable {entries : Entries Json} {key name : Text}

/-! ### Names -/

/-- A name as a request can spell it: it has an encoding, it is not empty, and no white space stands
at its ends. -/
structure IsName (t : Text) : Prop where
  isScalar : t.isScalar = true
  ne_nil : t ≠ []
  head : ∀ c ∈ t.head?, c.isWhiteSpace = false
  last : ∀ c ∈ t.getLast?, c.isWhiteSpace = false

theorem isName_iff {t : Text} : IsName t ↔ t.isScalar = true ∧ t ≠ [] ∧ t.stripped = t := by
  rw [Text.stripped, Text.trim_eq_self_iff]
  constructor
  · rintro ⟨hscalar, hne, hhead, hlast⟩
    exact ⟨hscalar, hne, hhead, hlast⟩
  · rintro ⟨hscalar, hne, hhead, hlast⟩
    exact ⟨hscalar, hne, hhead, hlast⟩

theorem checkName_self_iff {t : Text} : checkName (.string t) = .valid t ↔ IsName t := by
  rw [checkName_eq_valid, isName_iff]
  constructor
  · rintro ⟨_, ⟨⟩, hscalar, hne, hsame⟩
    exact ⟨hscalar, hsame ▸ hne, hsame⟩
  · rintro ⟨hscalar, hne, hsame⟩
    exact ⟨t, rfl, hscalar, hsame.symm ▸ hne, hsame⟩

theorem States.isName (h : States entries key name) : IsName name := by
  obtain ⟨t, -, hscalar, rfl, hne⟩ := h
  exact isName_iff.2 ⟨Text.isScalar_of_subset hscalar (Text.stripped_subset t), hne, Text.trim_trim⟩

theorem States.of_isName (h : IsName name)
    (hfind : Entries.find? key entries = some (.string name)) :
    States entries key name := by
  obtain ⟨hscalar, hne, hstripped⟩ := isName_iff.1 h
  exact ⟨name, hfind, hscalar, hstripped, hne⟩

theorem StatesType.isName (h : StatesType entries name) : IsName name := by
  cases h with
  | short hstates => exact hstates.isName
  | long hstates => exact hstates.isName

/-! ### Filters and the order -/

theorem checkFilter_eq_valid {item : Json} {f : FilterSpec} (h : checkFilter item = .valid f) :
    f.property.isScalar = true ∧ f.filterType.isScalar = true ∧ f.operator.isScalar = true ∧
      f.value = (item.member? "value").getD .null := by
  obtain ⟨entries, rfl, hstates⟩ := checkFilter_eq_valid_iff.1 h
  exact ⟨hstates.property.isName.isScalar, hstates.filterType.isName.isScalar,
    hstates.operator.isName.isScalar, hstates.value⟩

theorem StatesOrder.isName {sort : Option SortSpec} (h : StatesOrder entries sort) :
    ∀ s ∈ sort, IsName s.property := by
  cases h with
  | absent | null => simp
  | sort _ hstates =>
    rintro _ ⟨⟩
    exact hstates.property.isName

def items (document : Json) : List Json :=
  match document.member? "filters" with
  | some (.array items) => items
  | _ => []

theorem check_eq_valid {document : Json} {r : QueryRequest} (h : check document = .valid r) :
    List.Forall₂ (fun item f => checkFilter item = .valid f) (items document) r.filters ∧
      ∀ s ∈ r.sort, s.property.isScalar = true := by
  obtain ⟨entries, rfl, -, -, hfilters, hsort⟩ := check_eq_valid_iff.1 h
  refine ⟨?_, fun s hs => (hsort.isName s hs).isScalar⟩
  have hmember : Json.member? "filters" (.object entries) = Entries.find? "filters" entries := rfl
  unfold items
  rw [hmember]
  generalize r.filters = filters at hfilters ⊢
  cases hfilters with
  | absent hnone =>
    rw [hnone]
    exact .nil
  | items hfind hitems =>
    rw [hfind]
    exact forall₂_checkFilter_iff.2 ⟨_, rfl, hitems⟩

theorem exists_braces (escaping : Escaping) (layout : Layout) (entries : Entries Json) :
    ∃ t : Text, Json.writeAt escaping layout 0 (.object entries) =
      .scalar '\x7b' :: (t ++ [.scalar '\x7d']) := by
  cases entries with
  | nil => exact ⟨[], by simp [Json.writeAt, Text.ofString]⟩
  | cons e entries =>
    rw [Json.writeAt]
    · exact ⟨_, rfl⟩
    · exact List.cons_ne_nil e entries

theorem strippedBlanks_writeAt_object (escaping : Escaping) (layout : Layout)
    (entries : Entries Json) :
    Text.strippedBlanks (Json.writeAt escaping layout 0 (.object entries)) =
      Json.writeAt escaping layout 0 (.object entries) := by
  obtain ⟨t, ht⟩ := exists_braces escaping layout entries
  rw [ht, Text.strippedBlanks, Text.trim_eq_self (by decide) (by decide)]

/-- Off a text that is not in a fence only blanks are taken. -/
theorem unfenced_eq_strippedBlanks {t : Text}
    (hhead : ∀ c ∈ t.strippedBlanks.head?, c ≠ .scalar '\x60') : unfenced t = t.strippedBlanks := by
  have hnone := Text.after?_cons_eq_none hhead [.scalar '\x60', .scalar '\x60']
  unfold unfenced
  simp only [Text.startsWith, hnone, Option.isSome_none, Bool.false_eq_true, if_false]

/-- A text without blanks at its ends that is not in a fence is left alone. -/
theorem unfenced_eq_self {t : Text} (ht : t.strippedBlanks = t)
    (hhead : ∀ c ∈ t.head?, c ≠ .scalar '\x60') : unfenced t = t := by
  rw [unfenced_eq_strippedBlanks (ht.symm ▸ hhead), ht]

/-- Nothing is taken off a written object: it begins and ends with a brace. -/
theorem unfenced_writeAt_object (escaping : Escaping) (layout : Layout) (entries : Entries Json) :
    unfenced (Json.writeAt escaping layout 0 (.object entries)) =
      Json.writeAt escaping layout 0 (.object entries) := by
  refine unfenced_eq_self (strippedBlanks_writeAt_object escaping layout entries) ?_
  obtain ⟨t, ht⟩ := exists_braces escaping layout entries
  rw [ht]
  simp

end Request

namespace Json.IsReadable

variable {escaping : Escaping} {document v item : Json} {key : Text}

theorem member? (h : document.IsReadable escaping) (hmember : document.member? key = some v) :
    v.IsReadable escaping := by
  cases h with
  | object _ _ hvalues => exact hvalues _ (Entries.mem_of_find? hmember)
  | null | bool | int | float | string | array => cases hmember

theorem getD_member? (h : document.IsReadable escaping) :
    ((document.member? key).getD .null).IsReadable escaping := by
  cases hmember : document.member? key with
  | none => exact .null
  | some v => exact h.member? hmember

theorem of_mem_items (h : document.IsReadable escaping) (hitem : item ∈ Request.items document) :
    item.IsReadable escaping := by
  unfold Request.items at hitem
  split at hitem
  · rename_i hmember
    cases h.member? hmember with
    | array hitems => exact hitems item hitem
  · cases hitem

end Json.IsReadable

end SchemaQuery
