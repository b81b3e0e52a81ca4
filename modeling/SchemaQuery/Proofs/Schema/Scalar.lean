import SchemaQuery.Proofs.Json.Scalar
import SchemaQuery.Schema.Document

/-!
# Snapshots without surrogates

When no string of a snapshot holds a surrogate, its document has bytes.
-/

namespace SchemaQuery

structure PropertyOption.IsScalar (o : PropertyOption) : Prop where
  id : o.id.isScalar = true
  name : o.name.isScalar = true
  color : o.color.isScalar = true

structure Property.IsScalar (p : Property) : Prop where
  id : p.id.isScalar = true
  type : p.type.isScalar = true
  name : p.name.isScalar = true
  options : ∀ options ∈ p.options, ∀ o ∈ options, o.IsScalar

structure DatabaseSchema.IsScalar (s : DatabaseSchema) : Prop where
  id : s.id.isScalar = true
  title : s.title.isScalar = true
  keys : ∀ e ∈ s.properties.entries, e.1.isScalar = true
  properties : ∀ e ∈ s.properties.entries, e.2.IsScalar

structure Snapshot.IsScalar (s : Snapshot) : Prop where
  names : ∀ e ∈ s.entries, e.1.isScalar = true
  schemas : ∀ e ∈ s.entries, e.2.IsScalar

theorem PropertyOption.IsScalar.toJson {o : PropertyOption} (h : o.IsScalar) :
    o.toJson.IsScalar := by
  apply Json.IsScalar.record
  · simp
  · simp [Json.IsScalar.string, h.id, h.name, h.color]

theorem Property.IsScalar.toJson {p : Property} (h : p.IsScalar) : p.toJson.IsScalar := by
  have hmember : (∀ e ∈ p.optionsMember, e.1.isScalar = true) ∧
      ∀ e ∈ p.optionsMember, e.2.IsScalar := by
    unfold optionsMember
    cases hoptions : p.options with
    | none => simp
    | some options =>
      have harray : Json.IsScalar (.array (options.map PropertyOption.toJson)) := by
        refine .array fun v hv => ?_
        obtain ⟨o, ho, rfl⟩ := List.mem_map.1 hv
        exact (h.options options hoptions o ho).toJson
      simp [harray]
  apply Json.IsScalar.record
  · simpa using fun key v => hmember.1 (key, v)
  · simpa [Json.IsScalar.string, h.id, h.type, h.name] using fun key v => hmember.2 (key, v)

theorem Timestamp.isScalar_write (m : Moment) : (write m).isScalar = true := by
  have hoffset (o : UtcOffset) : (writeOffset o).isScalar = true := by
    unfold writeOffset
    split <;> simp
  have hfraction (n : Nat) : (TimeOfDay.writeFraction n).isScalar = true := by
    unfold TimeOfDay.writeFraction
    split <;> simp
  unfold write Date.write TimeOfDay.write
  cases m.offset <;> simp [hoffset, hfraction]

namespace DatabaseSchema

theorem replacedSurrogates_eq {key : Text} (h : key.isScalar = true) :
    replacedSurrogates key = key := by
  induction key with
  | nil => rfl
  | cons c key ih =>
    cases c with
    | surrogate unit => simp [Text.isScalar, CodePoint.isScalar] at h
    | scalar c =>
      rw [Text.isScalar_scalar_cons] at h
      have hkey := ih h
      simp only [replacedSurrogates, List.flatMap_cons] at hkey ⊢
      rw [hkey, List.singleton_append]

theorem isScalar_replacedSurrogates (key : Text) : (replacedSurrogates key).isScalar = true := by
  rw [Text.isScalar_iff]
  intro c hc
  obtain ⟨d, -, hc⟩ := List.mem_flatMap.1 hc
  cases d with
  | scalar d =>
    obtain rfl := List.mem_singleton.1 hc
    rfl
  | surrogate unit =>
    rw [List.eq_of_mem_replicate hc]
    rfl

theorem IsScalar.properties_toJson {s : DatabaseSchema} (h : s.IsScalar) :
    Json.IsScalar (.record
      (s.properties.entries.map fun (key, p) => (replacedSurrogates key, p.toJson))) := by
  apply Json.IsScalar.record
  · intro e he
    obtain ⟨d, -, rfl⟩ := List.mem_map.1 he
    exact isScalar_replacedSurrogates d.1
  · intro e he
    obtain ⟨d, hd, rfl⟩ := List.mem_map.1 he
    exact (h.properties d hd).toJson

theorem IsScalar.toJson {s : DatabaseSchema} (h : s.IsScalar) : s.toJson.IsScalar := by
  apply Json.IsScalar.record
  · simp
  · simp [Json.IsScalar.string, h.id, h.title, h.properties_toJson, Timestamp.isScalar_write]

end DatabaseSchema

theorem Snapshot.IsScalar.toJson {s : Snapshot} (h : s.IsScalar) : s.toJson.IsScalar := by
  apply Json.IsScalar.record
  · intro e he
    obtain ⟨d, hd, rfl⟩ := List.mem_map.1 he
    exact h.names d hd
  · intro e he
    obtain ⟨d, hd, rfl⟩ := List.mem_map.1 he
    exact (h.schemas d hd).toJson

end SchemaQuery
