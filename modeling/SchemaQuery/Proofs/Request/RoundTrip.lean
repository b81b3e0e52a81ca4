import SchemaQuery.Proofs.Query.Document
import SchemaQuery.Proofs.Request.Fence

/-!
# Requests read back

A request can be written as a document that states it. The names of whatever was read have nothing
to strip off any more, so this document is read as the same request again, in a code fence or
without one.
-/

namespace SchemaQuery

open Request

variable {entries : Entries Json}

/-! ### Requests as documents -/

theorem Request.HasOnly.isReadable {known : List Text} {escaping : Escaping}
    (h : HasOnly known entries) (hknown : ∀ key ∈ known, key.isScalar = true)
    (hnodup : (Entries.keys entries).Nodup) (hvalues : ∀ e ∈ entries, e.2.IsReadable escaping) :
    (Json.object entries).IsReadable escaping :=
  .object hnodup (fun key hkey => Or.inr (h.isScalar hknown key hkey)) hvalues

structure FilterSpec.IsNormal (f : FilterSpec) : Prop where
  property : IsName f.property
  filterType : IsName f.filterType
  operator : IsName f.operator

theorem Request.StatesFilter.isNormal {f : FilterSpec} (h : StatesFilter entries f) :
    f.IsNormal where
  property := h.property.isName
  filterType := h.filterType.isName
  operator := h.operator.isName

def FilterSpec.members (f : FilterSpec) : Entries Json :=
  [("property", .string f.property), ("filterType", .string f.filterType),
    ("operator", .string f.operator), ("value", f.value)]

theorem FilterSpec.IsNormal.states {f : FilterSpec} (h : f.IsNormal) :
    StatesFilter f.members f where
  only := by
    have hkeys : (["property", "filterType", "operator", "value"] : List Text) ⊆ filterKeys := by
      decide
    exact fun _ hkey => hkeys hkey
  property := .of_isName h.property rfl
  filterType := .short (.of_isName h.filterType rfl) rfl
  operator := .of_isName h.operator rfl
  value := rfl

theorem FilterSpec.IsNormal.isReadable {f : FilterSpec} (h : f.IsNormal) {escaping : Escaping}
    (hvalue : f.value.IsReadable escaping) : (Json.object f.members).IsReadable escaping := by
  have hname {t : Text} (ht : IsName t) : (Json.string t).IsReadable escaping :=
    .string (Or.inr ht.isScalar)
  have hnodup : (["property", "filterType", "operator", "value"] : List Text).Nodup := by decide
  apply h.states.only.isReadable (by decide) hnodup
  simp [members, hname h.property, hname h.filterType, hname h.operator, hvalue]

def SortSpec.members (s : SortSpec) : Entries Json :=
  [("property", .string s.property), ("direction", .string s.direction.name)]

theorem SortSpec.states {s : SortSpec} (h : IsName s.property) : StatesSort s.members s where
  only := fun _ hkey => hkey
  property := .of_isName h rfl
  direction := .named rfl

theorem SortSpec.isReadable {s : SortSpec} (h : IsName s.property) {escaping : Escaping} :
    (Json.object s.members).IsReadable escaping := by
  have hproperty : (Json.string s.property).IsReadable escaping := .string (Or.inr h.isScalar)
  have hdirection : (Json.string s.direction.name).IsReadable escaping := by
    apply Json.IsReadable.string
    cases s.direction <;> exact Or.inr rfl
  have hnodup : (["property", "direction"] : List Text).Nodup := by decide
  apply (SortSpec.states h).only.isReadable (by decide) hnodup
  simp [members, hproperty, hdirection]

theorem Request.StatesFilter.isDecoded_value {f : FilterSpec} (h : StatesFilter entries f)
    (hdecoded : (Json.object entries).IsDecoded) : f.value.IsDecoded := by
  cases hdecoded with
  | object _ hvalues =>
    rw [h.value]
    cases hfind : Entries.find? "value" entries with
    | none => exact .null
    | some v => exact hvalues _ (Entries.mem_of_find? hfind)

theorem Request.StatesFilters.isDecoded_value {filters : List FilterSpec}
    (h : StatesFilters entries filters) (hdecoded : (Json.object entries).IsDecoded) :
    ∀ f ∈ filters, f.value.IsDecoded := by
  cases h with
  | absent => simp
  | items hfind hitems =>
    intro f hf
    obtain ⟨members, hmem, hstates⟩ := exists_of_forall₂ hitems f hf
    cases hdecoded with
    | object _ hvalues =>
      cases hvalues _ (Entries.mem_of_find? hfind) with
      | array hall => exact hstates.isDecoded_value (hall _ (List.mem_map_of_mem hmem))

namespace QueryRequest

variable {r : QueryRequest}

structure IsNormal (r : QueryRequest) : Prop where
  database : IsName r.database
  filters : ∀ f ∈ r.filters, f.IsNormal
  sort : ∀ s ∈ r.sort, IsName s.property

theorem isNormal_of_states (h : StatesRequest entries r) : r.IsNormal := by
  obtain ⟨-, hdatabase, hfilters, hsort⟩ := h
  refine ⟨hdatabase.isName, ?_, hsort.isName⟩
  generalize r.filters = filters at hfilters ⊢
  cases hfilters with
  | absent => simp
  | items _ hitems =>
    intro f hf
    obtain ⟨members, -, hstates⟩ := exists_of_forall₂ hitems f hf
    exact hstates.isNormal

def members (r : QueryRequest) : Entries Json :=
  [("database", .string r.database),
    ("filters", .array (r.filters.map fun f => .object f.members)),
    ("sort", r.sort.elim .null fun s => .object s.members)]

def toJson (r : QueryRequest) : Json := .object r.members

theorem IsNormal.states (h : r.IsNormal) : StatesRequest r.members r where
  only := fun _ hkey => hkey
  database := .of_isName h.database rfl
  filters := by
    have hfind : Entries.find? "filters" r.members =
        some (.array ((r.filters.map FilterSpec.members).map .object)) := by
      rw [List.map_map]
      rfl
    apply StatesFilters.items hfind
    rw [List.forall₂_map_left_iff, List.forall₂_same]
    intro f hf
    exact (h.filters f hf).states
  sort := by
    have hfind : Entries.find? "sort" r.members =
      some (r.sort.elim .null fun s => .object s.members) := rfl
    cases hsort : r.sort with
    | none =>
      rw [hsort] at hfind
      exact .null hfind
    | some s =>
      rw [hsort] at hfind
      exact .sort hfind (SortSpec.states (h.sort s hsort))

theorem IsNormal.isReadable (h : r.IsNormal) {escaping : Escaping}
    (hvalues : ∀ f ∈ r.filters, f.value.IsReadable escaping) : r.toJson.IsReadable escaping := by
  have hname {t : Text} (ht : IsName t) : (Json.string t).IsReadable escaping :=
    .string (Or.inr ht.isScalar)
  have hfilters : (Json.array (r.filters.map fun f => .object f.members)).IsReadable escaping := by
    refine .array fun v hv => ?_
    obtain ⟨f, hf, rfl⟩ := List.mem_map.1 hv
    exact (h.filters f hf).isReadable (hvalues f hf)
  have hsort : (r.sort.elim Json.null fun s => .object s.members).IsReadable escaping := by
    cases hs : r.sort with
    | none => exact .null
    | some s => exact SortSpec.isReadable (h.sort s hs)
  have hnodup : (["database", "filters", "sort"] : List Text).Nodup := by decide
  apply h.states.only.isReadable (by decide) hnodup
  simp [members, hname h.database, hfilters, hsort]

end QueryRequest

namespace Request

def fencedInner (t : Text) : Text := Text.ofString "json\n" ++ (t ++ "\n")

def fenced (t : Text) : Text := Text.ofString "\x60\x60\x60" ++ (fencedInner t ++ "\x60\x60\x60")

theorem unfenced_fenced {t : Text} (h : t.strippedBlanks = t) : unfenced (fenced t) = t := by
  have hinner :
      fencedInner t = .scalar 'j' :: ((Text.ofString "son\n" ++ t) ++ [.scalar '\n']) := by
    simp [fencedInner, Text.ofString]
  have hne : fencedInner t ≠ [] := hinner ▸ List.cons_ne_nil _ _
  have htrim : (fencedInner t).trim (· = .scalar '\x60') = fencedInner t := by
    rw [hinner]
    exact Text.trim_eq_self (by decide) (by decide) _
  have hticks : fenced t = [] ++ ((ticks 3 ++ (fencedInner t ++ ticks 3)) ++ []) :=
    (List.append_nil (fenced t)).symm
  have hwithout : Text.without "json" (fencedInner t) = Text.ofString "\n" ++ (t ++ "\n") := rfl
  have hclosed (hopen : 3 = 0) : ∀ c ∈ (fencedInner t).getLast?, c.isBlank = false := by
    cases hopen
  rw [hticks, unfenced_between (Nat.le_refl 3) (List.forall_mem_nil _) (List.forall_mem_nil _) hne
    htrim hclosed, hwithout]
  exact Text.trim_surrounded isBlank_lineFeed h isBlank_lineFeed

theorem read_writeAt {r : QueryRequest} {escaping : Escaping} (h : r.IsNormal)
    (hvalues : ∀ f ∈ r.filters, f.value.IsReadable escaping) (layout : Layout) {t : Text}
    (ht : unfenced t = r.toJson.writeAt escaping layout 0) : read t = .ok r := by
  refine read_eq_ok_iff.2 ⟨r.toJson, ?_, check_eq_valid_iff.2 ⟨r.members, rfl, h.states⟩⟩
  rw [ht]
  exact (h.isReadable hvalues).read_writeAt layout

/-- A text is read exactly when its document states a request, and what is read is what is stated.
The request is read back from its own document, in a fence or without one. -/
theorem read_eq_ok_iff_states {t : Text} {r : QueryRequest} :
    (read t = .ok r ↔ ∃ entries, Json.read (unfenced t) = .ok (.object entries) ∧
      StatesRequest entries r) ∧
    (read t = .ok r → ∀ escaping layout,
      (escaping = .controls ∨ ∀ f ∈ r.filters, f.value.IsScalar) →
      read (r.toJson.writeAt escaping layout 0) = .ok r ∧
      read (fenced (r.toJson.writeAt escaping layout 0)) = .ok r) := by
  refine ⟨read_eq_ok_iff_exists_states, ?_⟩
  intro hr escaping layout hescaping
  obtain ⟨entries, hread, hstates⟩ := read_eq_ok_iff_exists_states.1 hr
  have hnormal := QueryRequest.isNormal_of_states hstates
  have hvalues : ∀ f ∈ r.filters, f.value.IsReadable escaping := by
    intro f hf
    apply (hstates.filters.isDecoded_value (Json.isDecoded_of_read hread) f hf).isReadable
    exact hescaping.imp_right fun h => h f hf
  constructor
  · exact read_writeAt hnormal hvalues layout (unfenced_writeAt_object escaping layout r.members)
  · exact read_writeAt hnormal hvalues layout
      (unfenced_fenced (strippedBlanks_writeAt_object escaping layout r.members))

/-- A text with white space to strip off, whose members stand in another order than in the document
of its request, and one of them under its other key. -/
def untidy : Text :=
  let filter : Json := .object [("filter_type", .string "title "), ("operator", .string "equals"),
    ("property", .string "N")]
  fenced (Json.write .nonAscii (.object [("sort", .object [("property", .string " N")]),
    ("filters", .array [filter]), ("database", .string " T\t")]))

def tidy : QueryRequest := ⟨"T", [⟨"N", "title", "equals", .null⟩], some ⟨"N", .ascending⟩⟩

theorem read_eq_ok_iff_states_untidy : read untidy = .ok tidy ∧
    (∃ entries, Json.read (unfenced untidy) = .ok (.object entries) ∧
      StatesRequest entries tidy) ∧
    read (tidy.toJson.write .nonAscii) = .ok tidy := by
  have hread : read untidy = .ok tidy := by rfl
  have hvalues : ∀ f ∈ tidy.filters, f.value.IsScalar := by
    intro f hf
    obtain rfl := List.mem_singleton.1 hf
    exact .null
  obtain ⟨hiff, hback⟩ := @read_eq_ok_iff_states untidy tidy
  exact ⟨hread, hiff.1 hread, (hback hread .nonAscii .oneLine (Or.inr hvalues)).1⟩

end Request

end SchemaQuery
