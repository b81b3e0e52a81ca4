import SchemaQuery.Proofs.Outcome
import SchemaQuery.Proofs.Schema.Scalar
import SchemaQuery.Schema.Conversion

/-!
# Converted schemas

What a database object has to be made of to be converted, and what the schema takes from it. A
schema holds no surrogate that is not in the object or in the name.
-/

namespace SchemaQuery

theorem PropertyOption.isScalar_of_check {v : Json} {o : PropertyOption} (hv : v.IsScalar)
    (h : check v = .valid o) : o.IsScalar := by
  unfold check at h
  split at h
  · cases hv with
    | object _ hvalues =>
      simp only [Checked.seq_eq_valid, Checked.map_eq_valid, Checked.required_eq_valid,
        checkText_eq_valid] at h
      obtain ⟨_, color, ⟨_, name, ⟨id, ⟨_, hid, rfl⟩, rfl⟩, ⟨_, hname, rfl⟩, rfl⟩, hcolor, rfl⟩ := h
      refine ⟨?_, ?_, ?_⟩
      · exact Json.isScalar_string_iff.1 (.find? hvalues hid)
      · exact Json.isScalar_string_iff.1 (.find? hvalues hname)
      · rcases Checked.optional_eq_valid.1 hcolor with ⟨-, rfl⟩ | ⟨w, hw, hcolor⟩
        · rfl
        · obtain rfl := checkText_eq_valid.1 hcolor
          exact Json.isScalar_string_iff.1 (.find? hvalues hw)
  · cases h

namespace Conversion

variable {α : Type}

theorem ensure_eq_ok {kind : Text} {x : Checked α} {a : α} :
    ensure kind x = .ok a ↔ x = .valid a := by
  cases x <;> simp [ensure]

theorem use_eq_ok {x : Except Misuse α} {a : α} : use x = .ok a ↔ x = .ok a := by
  cases x <;> simp [use]

theorem schema_eq_ok {name : Text} {raw : Json} {fetchedAt : Moment} {s : DatabaseSchema}
    (h : schema name raw fetchedAt = .ok s) :
    ∃ (entries : Entries Json) (members : Entries Json) (properties : Entries Property) (id : Text),
      raw = .object entries ∧
      (Json.get "properties" entries).members = .ok members ∧
      members.mapM (fun (key, v) => Prod.mk key <$> property key v) = .ok properties ∧
      Entries.find? "id" entries = some (.string id) ∧
      s = ⟨id, name, Table.ofList properties, fetchedAt⟩ := by
  unfold schema at h
  split at h
  · rename_i entries
    obtain ⟨members, hmembers, h⟩ := Except.bind_eq_ok.1 h
    obtain ⟨properties, hproperties, h⟩ := Except.bind_eq_ok.1 h
    split at h
    · cases h
    · rename_i id hid
      rw [ensure_eq_ok] at h
      simp only [Checked.seq_eq_valid, Checked.map_eq_valid, Checked.within_eq_valid,
        checkText_eq_valid] at h
      obtain ⟨_, _, ⟨_, _, ⟨_, _, ⟨t, rfl, rfl⟩, ⟨⟩, rfl⟩, ⟨⟩, rfl⟩, ⟨⟩, rfl⟩ := h
      exact ⟨entries, members, properties, t, rfl, use_eq_ok.1 hmembers, hproperties, hid, rfl⟩
  · cases h

theorem title_of_schema_eq_ok {name : Text} {raw : Json} {fetchedAt : Moment} {s : DatabaseSchema}
    (h : schema name raw fetchedAt = .ok s) : s.title = name ∧ s.lastUpdated = fetchedAt := by
  obtain ⟨_, _, _, _, -, -, -, -, rfl⟩ := schema_eq_ok h
  exact ⟨rfl, rfl⟩

theorem isScalar_options {config : Json} {options : List PropertyOption} (hconfig : config.IsScalar)
    (h : Conversion.options config = .ok options) : ∀ o ∈ options, o.IsScalar := by
  unfold Conversion.options at h
  obtain ⟨members, hmembers, h⟩ := Except.bind_eq_ok.1 h
  obtain ⟨items, hitems, h⟩ := Except.bind_eq_ok.1 h
  have hscalar := (hconfig.members (use_eq_ok.1 hmembers)).2
  have hget : (Json.get "options" members).IsScalar := Json.IsScalar.getD_find? hscalar .null
  intro o ho
  obtain ⟨item, hitem, hcheck⟩ := Except.exists_of_mem_mapM h o ho
  exact PropertyOption.isScalar_of_check (hget.presentItems (use_eq_ok.1 hitems) item hitem)
    (ensure_eq_ok.1 hcheck)

theorem isScalar_optionsOfType {entries : Entries Json} {type : Json}
    {options : Option (List PropertyOption)} (hentries : ∀ e ∈ entries, e.2.IsScalar)
    (h : optionsOfType entries type = .ok options) :
    ∀ os ∈ options, ∀ o ∈ os, o.IsScalar := by
  unfold optionsOfType at h
  split at h
  · split at h
    · obtain ⟨os, hos, rfl⟩ := Except.map_eq_ok.1 h
      rintro _ ⟨⟩
      exact isScalar_options (Json.IsScalar.getD_find? hentries .null) hos
    · cases h
      simp
  · cases h
  · cases h
  · cases h
    simp

theorem isScalar_property {key : Text} {v : Json} {p : Property} (hkey : key.isScalar = true)
    (hv : v.IsScalar) (h : property key v = .ok p) : p.IsScalar := by
  unfold property at h
  split at h
  · rename_i entries
    cases hv with
    | object _ hvalues =>
      obtain ⟨options, hoptions, h⟩ := Except.bind_eq_ok.1 h
      rw [ensure_eq_ok] at h
      simp only [Checked.seq_eq_valid, Checked.map_eq_valid, Checked.within_eq_valid,
        checkText_eq_valid] at h
      obtain ⟨_, _, ⟨_, name, ⟨_, type, ⟨id, hid, rfl⟩, htype, rfl⟩, hname, rfl⟩, ⟨⟩, rfl⟩ := h
      have htext {k t d : Text} (hd : d.isScalar = true)
          (ht : (Entries.find? k entries).getD (.string d) = .string t) : t.isScalar = true := by
        have hmember : ((Entries.find? k entries).getD (.string d)).IsScalar :=
          Json.IsScalar.getD_find? hvalues (.string hd)
        rw [ht] at hmember
        exact Json.isScalar_string_iff.1 hmember
      exact ⟨htext rfl hid, htext rfl htype, htext hkey hname,
        isScalar_optionsOfType hvalues hoptions⟩
  · cases h

theorem isScalar_schema {name : Text} {raw : Json} {fetchedAt : Moment} {s : DatabaseSchema}
    (hname : name.isScalar = true) (hraw : raw.IsScalar) (h : schema name raw fetchedAt = .ok s) :
    s.IsScalar := by
  obtain ⟨entries, members, properties, id, rfl, hmembers, hproperties, hid, rfl⟩ := schema_eq_ok h
  cases hraw with
  | object _ hvalues =>
    have hget : (Json.get "properties" entries).IsScalar :=
      Json.IsScalar.getD_find? hvalues .null
    obtain ⟨hkeys, hmembers⟩ := hget.members hmembers
    have hproperty : ∀ e ∈ properties, e.1.isScalar = true ∧ e.2.IsScalar := by
      intro e he
      obtain ⟨⟨key, v⟩, hmember, hmap⟩ := Except.exists_of_mem_mapM hproperties e he
      obtain ⟨p, hp, rfl⟩ := Except.map_eq_ok.1 hmap
      exact ⟨hkeys _ hmember, isScalar_property (hkeys _ hmember) (hmembers _ hmember) hp⟩
    exact {
      id := Json.isScalar_string_iff.1 (.find? hvalues hid)
      title := hname
      keys := fun e he => (hproperty e (Entries.mem_of_mem_ofList he)).1
      properties := fun e he => (hproperty e (Entries.mem_of_mem_ofList he)).2 }

end Conversion

end SchemaQuery
