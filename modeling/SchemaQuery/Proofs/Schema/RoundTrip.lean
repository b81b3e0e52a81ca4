import SchemaQuery.Proofs.Calendar.Timestamp
import SchemaQuery.Proofs.Json.RoundTrip
import SchemaQuery.Proofs.Outcome
import SchemaQuery.Proofs.Schema.Scalar

/-!
# Snapshots read back

The document of a snapshot is accepted again and gives the same snapshot: every option, property and
schema in its place, and properties without options apart from those with none. Keys of properties
must hold no surrogates, since these are replaced, and moments must have a stored form.
-/

namespace SchemaQuery

theorem PropertyOption.check_toJson (o : PropertyOption) : check o.toJson = .valid o := rfl

theorem PropertyOption.isReadable_toJson (o : PropertyOption) :
    o.toJson.IsReadable .controls := by
  apply Json.IsReadable.record
  simp [Json.IsReadable.string]

theorem Property.check_toJson (p : Property) : check p.toJson = .valid p := by
  obtain ⟨id, type, name, options⟩ := p
  cases options with
  | none => rfl
  | some options =>
    have hitems : Checked.items PropertyOption.check (options.map PropertyOption.toJson) =
        .valid options :=
      Checked.items_of_forall fun o _ => o.check_toJson
    have hcheck : check (toJson ⟨id, type, name, some options⟩) =
        Property.mk <$> .valid id <*> .valid type <*> .valid name <*>
          (some <$> Checked.items PropertyOption.check
            (options.map PropertyOption.toJson)).within (.key "options") := rfl
    rw [hcheck, hitems]
    rfl

theorem Property.isReadable_toJson (p : Property) : p.toJson.IsReadable .controls := by
  have hmember : ∀ e ∈ p.optionsMember, e.2.IsReadable .controls := by
    unfold optionsMember
    cases p.options with
    | none => simp
    | some options =>
      have harray : Json.IsReadable .controls (.array (options.map PropertyOption.toJson)) := by
        refine .array fun v hv => ?_
        obtain ⟨o, -, rfl⟩ := List.mem_map.1 hv
        exact o.isReadable_toJson
      simp [harray]
  apply Json.IsReadable.record
  simpa [Json.IsReadable.string] using fun key v => hmember (key, v)

namespace DatabaseSchema

theorem list_check_toJson (properties : Table Property) :
    Checked.list ((properties.entries.map fun (key, p) => (key, p.toJson)).map
      fun (key, v) => Prod.mk key <$>
        (Property.check v).within (.key (replacedSurrogates key))) =
      .valid properties.entries := by
  rw [Checked.list_eq_valid]
  simp [Property.check_toJson]

theorem checkProperties_toJson {properties : Table Property}
    (h : ∀ e ∈ properties.entries, e.1.isScalar = true) :
    checkProperties (.record
      (properties.entries.map fun (key, p) => (replacedSurrogates key, p.toJson))) =
      .valid properties := by
  have hwrites : (properties.entries.map fun (key, p) => (replacedSurrogates key, p.toJson)) =
      properties.entries.map fun (key, p) => (key, p.toJson) :=
    List.map_congr_left fun e he => by simp only [replacedSurrogates_eq (h e he)]
  have hnodup : (Entries.keys (properties.entries.map fun (key, p) => (key, p.toJson))).Nodup := by
    simpa [Entries.keys, Function.comp_def] using properties.nodup
  rw [hwrites, Json.record, Entries.ofList_of_nodup hnodup, checkProperties,
    list_check_toJson, Checked.map_valid, Table.ofList_entries]

/-- The schema is what a stored one comes back as: nothing is lost but a moment that has no stored
form. -/
structure Restores (loaded s : DatabaseSchema) : Prop where
  upToMoment : ∃ m, loaded = { s with lastUpdated := m }
  eq_of_isStorable : s.lastUpdated.IsStorable → loaded = s

theorem Restores.refl (s : DatabaseSchema) : s.Restores s where
  upToMoment := ⟨s.lastUpdated, rfl⟩
  eq_of_isStorable _ := rfl

theorem check_toJson_eq {s : DatabaseSchema}
    (h : ∀ e ∈ s.properties.entries, e.1.isScalar = true) :
    check s.toJson = (fun m => { s with lastUpdated := m }) <$>
      (Timestamp.check (.string (Timestamp.write s.lastUpdated))).within (.key "lastUpdated") := by
  have hcheck : check s.toJson =
      DatabaseSchema.mk <$> .valid s.id <*> .valid s.title <*>
        (checkProperties (.record (s.properties.entries.map fun (key, p) =>
          (replacedSurrogates key, p.toJson)))).within (.key "properties") <*>
        (Timestamp.check (.string (Timestamp.write s.lastUpdated))).within
          (.key "lastUpdated") := rfl
  rw [hcheck, checkProperties_toJson h]
  cases Timestamp.check (.string (Timestamp.write s.lastUpdated)) with
  | valid m => rfl
  | invalid issues => rfl

theorem check_toJson {s : DatabaseSchema} (h : ∀ e ∈ s.properties.entries, e.1.isScalar = true)
    (ht : s.lastUpdated.IsStorable) : check s.toJson = .valid s := by
  have hmoment : Timestamp.check (.string (Timestamp.write s.lastUpdated)) =
      .valid s.lastUpdated := by
    simp [Timestamp.check, Timestamp.isScalar_write, Timestamp.read_write ht]
  rw [check_toJson_eq h, hmoment]
  rfl

theorem restores_of_check_toJson {s loaded : DatabaseSchema}
    (h : ∀ e ∈ s.properties.entries, e.1.isScalar = true)
    (hcheck : check s.toJson = .valid loaded) :
    loaded.Restores s := by
  constructor
  · rw [check_toJson_eq h, Checked.map_eq_valid] at hcheck
    obtain ⟨m, -, rfl⟩ := hcheck
    exact ⟨m, rfl⟩
  · intro hstorable
    rw [check_toJson h hstorable] at hcheck
    exact (Checked.valid.inj hcheck).symm

theorem isReadable_toJson (s : DatabaseSchema) : s.toJson.IsReadable .controls := by
  have hproperties : Json.IsReadable .controls (.record
      (s.properties.entries.map fun (key, p) => (replacedSurrogates key, p.toJson))) := by
    refine .record fun e he => ?_
    obtain ⟨d, -, rfl⟩ := List.mem_map.1 he
    exact d.2.isReadable_toJson
  apply Json.IsReadable.record
  simp [Json.IsReadable.string, hproperties]

end DatabaseSchema

namespace Snapshot

def IsStorable (s : Snapshot) : Prop := ∀ e ∈ s.entries, e.2.lastUpdated.IsStorable

theorem checkEntries_toJson {entries : Entries DatabaseSchema}
    (h : ∀ e ∈ entries, ∀ p ∈ e.2.properties.entries, p.1.isScalar = true)
    (ht : ∀ e ∈ entries, e.2.lastUpdated.IsStorable) :
    checkEntries (entries.map fun (name, schema) => (name, schema.toJson)) = .ok entries := by
  induction entries with
  | nil => rfl
  | cons e entries ih =>
    have hcheck := DatabaseSchema.check_toJson (h e List.mem_cons_self) (ht e List.mem_cons_self)
    have hentries := ih (fun d hd => h d (List.mem_cons_of_mem _ hd))
      fun d hd => ht d (List.mem_cons_of_mem _ hd)
    simp [checkEntries, hcheck, hentries, Except.map]

theorem toJson_eq (s : Snapshot) :
    s.toJson = .object (s.entries.map fun (name, schema) => (name, schema.toJson)) := by
  have hnodup :
      (Entries.keys (s.entries.map fun (name, schema) => (name, schema.toJson))).Nodup := by
    simpa [Entries.keys, Function.comp_def] using s.nodup
  rw [toJson, Json.record, Entries.ofList_of_nodup hnodup]

theorem ofJson_toJson {s : Snapshot} (h : s.IsScalar) (ht : s.IsStorable) :
    ofJson s.toJson = .ok s := by
  have hentries := checkEntries_toJson (fun e he => (h.schemas e he).keys) ht
  rw [toJson_eq, ofJson, hentries]
  exact congrArg Except.ok (Table.ofList_entries s)

/-- Schemas come back under their names, and in their order. -/
theorem related_of_checkEntries {entries loaded : Entries DatabaseSchema}
    (h : ∀ e ∈ entries, ∀ p ∈ e.2.properties.entries, p.1.isScalar = true)
    (hcheck : checkEntries (entries.map fun (name, schema) => (name, schema.toJson)) = .ok loaded) :
    Entries.Related DatabaseSchema.Restores loaded entries := by
  induction entries generalizing loaded with
  | nil =>
    cases hcheck
    exact .nil
  | cons e entries ih =>
    obtain ⟨hhead, htail⟩ := List.forall_mem_cons.1 h
    rw [List.map_cons, checkEntries] at hcheck
    split at hcheck
    · rename_i schema hschema
      cases hrest : checkEntries (entries.map fun (name, schema) => (name, schema.toJson)) with
      | error issues =>
        rw [hrest] at hcheck
        cases hcheck
      | ok rest =>
        rw [hrest] at hcheck
        cases hcheck
        exact .cons ⟨rfl, DatabaseSchema.restores_of_check_toJson hhead hschema⟩ (ih htail hrest)
    · cases hcheck

theorem related_of_ofJson_toJson {s loaded : Snapshot} (h : s.IsScalar)
    (hload : ofJson s.toJson = .ok loaded) :
    Entries.Related DatabaseSchema.Restores loaded.entries s.entries := by
  rw [toJson_eq, ofJson] at hload
  obtain ⟨entries, hentries, rfl⟩ := Except.map_eq_ok.1 hload
  have hrelated := related_of_checkEntries (fun e he => (h.schemas e he).keys) hentries
  have hnodup : (Entries.keys entries).Nodup := by
    rw [hrelated.keys_eq]
    exact s.nodup
  have hkept : (Table.ofList entries).entries = entries := Entries.ofList_of_nodup hnodup
  rw [hkept]
  exact hrelated

theorem isReadable_toJson (s : Snapshot) : s.toJson.IsReadable .controls := by
  refine .record fun e he => ?_
  obtain ⟨d, -, rfl⟩ := List.mem_map.1 he
  exact d.2.isReadable_toJson

end Snapshot

/-! ### Where snapshots come from -/

theorem Timestamp.isStorable_of_check {v : Json} {m : Moment} (h : check v = .valid m) :
    m.IsStorable := by
  unfold check at h
  split at h
  · split at h
    · cases h
    split at h
    · cases h
      exact isStorable_of_read ‹_›
    · cases h
    · cases h
  · split at h
    · cases h
    split at h
    · cases h
      exact isStorable_of_ofEpoch ‹_›
    · cases h
  · split at h
    · cases h
      exact isStorable_of_ofBinary64 ‹_›
    · cases h
  · cases h

theorem DatabaseSchema.isStorable_of_check {v : Json} {s : DatabaseSchema}
    (h : check v = .valid s) : s.lastUpdated.IsStorable := by
  unfold check at h
  split at h
  · rename_i entries
    simp only [Checked.seq_eq_valid, Checked.map_eq_valid] at h
    obtain ⟨_, m, ⟨_, _, ⟨_, _, ⟨_, _, rfl⟩, _, rfl⟩, _, rfl⟩, hmoment, rfl⟩ := h
    obtain ⟨_, hmoment⟩ := Checked.exists_of_either_eq_valid hmoment
    exact Timestamp.isStorable_of_check hmoment
  · cases h

namespace Snapshot

theorem isStorable_of_checkEntries {members : Entries Json} {entries : Entries DatabaseSchema}
    (h : checkEntries members = .ok entries) : ∀ e ∈ entries, e.2.lastUpdated.IsStorable := by
  induction members generalizing entries with
  | nil =>
    cases h
    simp
  | cons member members ih =>
    unfold checkEntries at h
    split at h
    · rename_i schema hschema
      cases hmembers : checkEntries members with
      | error e => simp [hmembers, Except.map] at h
      | ok rest =>
        simp only [hmembers, Except.map, Except.ok.injEq] at h
        subst h
        intro e he
        rcases List.mem_cons.1 he with rfl | he
        · exact DatabaseSchema.isStorable_of_check hschema
        · exact ih hmembers e he
    · cases h

theorem isStorable_of_ofJson {document : Json} {s : Snapshot} (h : ofJson document = .ok s) :
    s.IsStorable := by
  unfold ofJson at h
  split at h
  · rename_i members
    cases hmembers : checkEntries members with
    | error e => simp [hmembers, Except.map] at h
    | ok entries =>
      simp only [hmembers, Except.map, Except.ok.injEq] at h
      subst h
      exact fun e he => isStorable_of_checkEntries hmembers e (Entries.mem_of_mem_ofList he)
  · cases h

end Snapshot

end SchemaQuery
