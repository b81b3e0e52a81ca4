import SchemaQuery.Json.Use
import SchemaQuery.Json.Writer
import SchemaQuery.Proofs.Table
import SchemaQuery.Proofs.Text.Join

/-!
# Documents without surrogates

What a document without surrogates in its strings and keys is used for holds none either. A text
that keeps the characters of a document and holds none is that of such a document.
-/

namespace SchemaQuery

namespace Text

theorem isScalar_iff {t : Text} : t.isScalar = true ↔ ∀ c ∈ t, c.isScalar = true := by
  simp [isScalar]

@[simp] theorem isScalar_nil : isScalar [] = true := rfl

@[simp] theorem isScalar_scalar_cons (c : Char) (t : Text) :
    isScalar (.scalar c :: t) = t.isScalar := by
  simp [isScalar, CodePoint.isScalar]

@[simp] theorem isScalar_append (s t : Text) : isScalar (s ++ t) = (s.isScalar && t.isScalar) := by
  simp [isScalar]

@[simp] theorem isScalar_map_scalar (cs : List Char) : isScalar (cs.map .scalar) = true := by
  simp [isScalar, CodePoint.isScalar]

@[simp] theorem isScalar_ofString (s : String) : isScalar (ofString s) = true :=
  isScalar_map_scalar _

@[simp] theorem isScalar_replicate (n : Nat) (c : Char) :
    isScalar (List.replicate n (.scalar c)) = true := by
  simp [isScalar, CodePoint.isScalar]

theorem isScalar_of_subset {s t : Text} (h : t.isScalar = true) (hsub : s ⊆ t) :
    s.isScalar = true :=
  isScalar_iff.2 fun c hc => isScalar_iff.1 h c (hsub hc)

theorem isScalar_of_mem_join {separator : Text} {parts : List Text}
    (h : isScalar (join separator parts) = true) {part : Text} (hpart : part ∈ parts) :
    part.isScalar = true :=
  isScalar_of_subset h (isInfix_join hpart separator).subset

@[simp] theorem isScalar_ofNat (n : Nat) : isScalar (ofNat n) = true := isScalar_map_scalar _

@[simp] theorem isScalar_ofInt (n : Int) : isScalar (ofInt n) = true := by
  cases n <;> simp [ofInt]

@[simp] theorem isScalar_padded (width n : Nat) : isScalar (padded width n) = true := by
  simp [padded]

@[simp] theorem isScalar_hexadecimal (width n : Nat) : isScalar (hexadecimal width n) = true := by
  simp [hexadecimal]

end Text

namespace Json

/-- What passes from the parts of a document to the document holds of every document. -/
@[elab_as_elim]
theorem induction_parts {motive : Json → Prop} (v : Json) (null : motive null)
    (bool : ∀ b, motive (bool b)) (int : ∀ n, motive (int n)) (float : ∀ x, motive (float x))
    (string : ∀ t, motive (string t))
    (array : ∀ items : List Json, (∀ v ∈ items, motive v) → motive (array items))
    (object : ∀ entries : Entries Json, (∀ e ∈ entries, motive e.2) → motive (object entries)) :
    motive v := by
  match v with
  | .null => exact null
  | .bool b => exact bool b
  | .int n => exact int n
  | .float x => exact float x
  | .string t => exact string t
  | .array items =>
    apply array
    intro w hw
    exact induction_parts w null bool int float string array object
  | .object entries =>
    apply object
    intro e he
    exact induction_parts e.2 null bool int float string array object
termination_by sizeOf v
decreasing_by
  · have hsize := List.sizeOf_lt_of_mem hw
    simp only [Json.array.sizeOf_spec]
    omega
  · have hsize := List.sizeOf_lt_of_mem he
    obtain ⟨key, w⟩ := e
    simp only [Json.object.sizeOf_spec, Prod.mk.sizeOf_spec] at hsize ⊢
    omega

/-- No string and no key of the document holds a surrogate. -/
inductive IsScalar : Json → Prop
  | null : IsScalar null
  | bool (b : Bool) : IsScalar (bool b)
  | int (n : Int) : IsScalar (int n)
  | float (x : Binary64) : IsScalar (float x)
  | string {t : Text} : t.isScalar = true → IsScalar (string t)
  | array {items : List Json} : (∀ v ∈ items, IsScalar v) → IsScalar (array items)
  | object {entries : Entries Json} : (∀ e ∈ entries, e.1.isScalar = true) →
    (∀ e ∈ entries, IsScalar e.2) → IsScalar (object entries)

variable {layout : Layout}

theorem isScalar_of_writeString {t : Text} (h : (writeString .controls t).isScalar = true) :
    t.isScalar = true := by
  rw [Text.isScalar_iff] at h ⊢
  intro c hc
  cases c with
  | scalar c => rfl
  | surrogate unit =>
    have hpoint : writePoint .controls (.surrogate unit) = [.surrogate unit] := by
      have hvalue : ¬ (CodePoint.surrogate unit).value < 0x20 := by
        rw [CodePoint.value]
        omega
      simp [writePoint, hvalue]
    refine h _ ?_
    simp only [writeString, List.cons_append, List.mem_cons, List.mem_append, List.mem_flatMap]
    exact .inr (.inl ⟨_, hc, by simp [hpoint]⟩)

/-- A text that keeps characters keeps surrogates, too. -/
theorem isScalar_of_writeAt (v : Json) (level : Nat)
    (h : (writeAt .controls layout level v).isScalar = true) : v.IsScalar := by
  induction v using induction_parts generalizing level with
  | null => exact .null
  | bool b => exact .bool b
  | int n => exact .int n
  | float x => exact .float x
  | string t => exact .string (isScalar_of_writeString (by simpa [writeAt] using h))
  | array items ih =>
    apply IsScalar.array
    intro w hw
    obtain ⟨v, items, rfl⟩ := List.exists_cons_of_ne_nil (List.ne_nil_of_mem hw)
    simp only [writeAt, writeItems_eq_map, Text.isScalar_append, Text.isScalar_scalar_cons,
      Bool.and_eq_true] at h
    exact ih w hw (level + 1) (Text.isScalar_of_mem_join h.1.1.2 (List.mem_map_of_mem hw))
  | object entries ih =>
    have hentry : ∀ d ∈ entries, (writeString .controls d.1).isScalar = true ∧
        (writeAt .controls layout (level + 1) d.2).isScalar = true := by
      intro d hd
      obtain ⟨e, entries, rfl⟩ := List.exists_cons_of_ne_nil (List.ne_nil_of_mem hd)
      simp only [writeAt, writeEntries_eq_map, Text.isScalar_append, Text.isScalar_scalar_cons,
        Bool.and_eq_true] at h
      have hjoined := Text.isScalar_of_mem_join h.1.1.2 (List.mem_map_of_mem hd)
      simp only [Text.isScalar_append, Bool.and_eq_true] at hjoined
      exact ⟨hjoined.1, hjoined.2.2⟩
    exact .object (fun d hd => isScalar_of_writeString (hentry d hd).1)
      fun d hd => ih d hd (level + 1) (hentry d hd).2

theorem IsScalar.record {writes : List (Text × Json)} (hkeys : ∀ e ∈ writes, e.1.isScalar = true)
    (h : ∀ e ∈ writes, IsScalar e.2) : IsScalar (record writes) :=
  .object (fun e he => hkeys e (Entries.mem_of_mem_ofList he))
    fun e he => h e (Entries.mem_of_mem_ofList he)

/-! ### Parts of documents -/

variable {v : Json} {entries : Entries Json} {key : Text}

theorem isScalar_string_iff {t : Text} : IsScalar (string t) ↔ t.isScalar = true :=
  ⟨fun h => by cases h; assumption, .string⟩

theorem IsScalar.find? (h : ∀ e ∈ entries, IsScalar e.2)
    (hfind : Entries.find? key entries = some v) : v.IsScalar :=
  h _ (Entries.mem_of_find? hfind)

theorem IsScalar.getD_find? (h : ∀ e ∈ entries, IsScalar e.2) (hv : v.IsScalar) :
    ((Entries.find? key entries).getD v).IsScalar := by
  cases hfind : Entries.find? key entries with
  | none => exact hv
  | some w => exact IsScalar.find? h hfind

theorem IsScalar.members (h : v.IsScalar) (hmembers : v.members = .ok entries) :
    (∀ e ∈ entries, e.1.isScalar = true) ∧ ∀ e ∈ entries, IsScalar e.2 := by
  unfold Json.members at hmembers
  split at hmembers
  · cases hmembers
    simp
  split at hmembers
  · cases hmembers
    cases h with
    | object hkeys hvalues => exact ⟨hkeys, hvalues⟩
  · cases hmembers

theorem IsScalar.items {items : List Json} (h : v.IsScalar) (hitems : v.items = .ok items) :
    ∀ w ∈ items, w.IsScalar := by
  cases h with
  | array hvalues =>
    cases hitems
    exact hvalues
  | object hkeys _ =>
    cases hitems
    intro w hw
    obtain ⟨e, he, rfl⟩ := List.mem_map.1 hw
    exact .string (hkeys e he)
  | string ht =>
    cases hitems
    intro w hw
    obtain ⟨c, hc, rfl⟩ := List.mem_map.1 hw
    exact .string (Text.isScalar_of_subset ht (by simpa using hc))
  | null | bool | int | float => cases hitems

theorem IsScalar.presentItems {items : List Json} (h : v.IsScalar)
    (hitems : v.presentItems = .ok items) : ∀ w ∈ items, w.IsScalar := by
  unfold Json.presentItems at hitems
  split at hitems
  · cases hitems
    simp
  · exact h.items hitems

end Json

end SchemaQuery
