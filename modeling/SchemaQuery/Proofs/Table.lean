import Mathlib.Data.List.Forall2
import SchemaQuery.Table

/-!
# Tables from writes, and tables of images

Writes with different keys are kept as they are, in their order. Otherwise a table still holds no
entry that was not written. Looking up a key in a table finds the one entry under it, and in a table
of images the image of what is found in the other. Entries that correspond are found under one key.
-/

namespace SchemaQuery

namespace Entries

variable {α β : Type}

theorem insert_of_notMem {key : Text} {es : Entries α} (h : key ∉ es.keys) (value : α) :
    insert key value es = es ++ [(key, value)] := by
  induction es with
  | nil => rfl
  | cons e es ih =>
    simp only [keys, List.map_cons, List.mem_cons, not_or] at h
    simp [insert, Ne.symm h.1, ih h.2]

theorem mem_of_mem_insert {key : Text} {value : α} {es : Entries α} {e : Text × α}
    (h : e ∈ insert key value es) : e = (key, value) ∨ e ∈ es := by
  induction es with
  | nil => simpa [insert] using h
  | cons d es ih =>
    unfold insert at h
    split at h
    · rename_i hkey
      rcases List.mem_cons.1 h with rfl | h
      · exact Or.inl (by rw [hkey])
      · exact Or.inr (List.mem_cons_of_mem _ h)
    · rcases List.mem_cons.1 h with rfl | h
      · exact Or.inr List.mem_cons_self
      · exact (ih h).imp_right (List.mem_cons_of_mem _)

theorem mem_of_mem_foldl_insert {writes : List (Text × α)} {e : Text × α} {es : Entries α}
    (h : e ∈ writes.foldl (fun es (k, v) => insert k v es) es) : e ∈ es ∨ e ∈ writes := by
  induction writes generalizing es with
  | nil => exact Or.inl h
  | cons w writes ih =>
    rcases ih h with hinsert | htail
    · rcases mem_of_mem_insert hinsert with rfl | hes
      · exact Or.inr List.mem_cons_self
      · exact Or.inl hes
    · exact Or.inr (List.mem_cons_of_mem _ htail)

theorem mem_of_mem_ofList {writes : List (Text × α)} {e : Text × α} (h : e ∈ ofList writes) :
    e ∈ writes := by
  rcases mem_of_mem_foldl_insert h with hnil | hwrites
  · cases hnil
  · exact hwrites

theorem foldl_insert_of_nodup {writes : List (Text × α)} (es : Entries α)
    (h : (keys (es ++ writes)).Nodup) :
    writes.foldl (fun es (k, v) => insert k v es) es = es ++ writes := by
  induction writes generalizing es with
  | nil => simp
  | cons w writes ih =>
    obtain ⟨key, value⟩ := w
    have hnew : key ∉ keys es := by
      simp only [keys, List.map_append, List.map_cons, List.nodup_append] at h
      exact fun hmem => h.2.2 key hmem key List.mem_cons_self rfl
    have htail := ih (es ++ [(key, value)]) (by simpa using h)
    rw [List.append_assoc, List.singleton_append] at htail
    simpa only [List.foldl_cons, insert_of_notMem hnew] using htail

theorem ofList_of_nodup {writes : List (Text × α)} (h : (keys writes).Nodup) :
    ofList writes = writes :=
  foldl_insert_of_nodup [] h

theorem find?_of_notMem {key : Text} {es : Entries α} (h : key ∉ keys es) :
    find? key es = none := by
  induction es with
  | nil => rfl
  | cons e es ih =>
    simp only [keys, List.map_cons, List.mem_cons, not_or] at h
    simp [find?, Ne.symm h.1, ih h.2]

theorem mem_of_find? {key : Text} {value : α} {es : Entries α} (h : find? key es = some value) :
    (key, value) ∈ es := by
  induction es with
  | nil => cases h
  | cons e es ih =>
    unfold find? at h
    split at h
    · rename_i hkey
      cases h
      rw [← hkey]
      exact List.mem_cons_self
    · exact List.mem_cons_of_mem _ (ih h)

theorem find?_eq_none_iff {key : Text} {es : Entries α} : find? key es = none ↔ key ∉ keys es := by
  constructor
  · intro hnone hkey
    obtain ⟨e, he, rfl⟩ := List.mem_map.1 hkey
    induction es with
    | nil => cases he
    | cons d es ih =>
      unfold find? at hnone
      split at hnone
      · cases hnone
      · rename_i hne
        rcases List.mem_cons.1 he with rfl | he
        · exact hne rfl
        · exact ih he hnone (List.mem_map_of_mem he)
  · exact find?_of_notMem

theorem find?_of_mem {key : Text} {value : α} {es : Entries α} (hnodup : (keys es).Nodup)
    (h : (key, value) ∈ es) : find? key es = some value := by
  induction es with
  | nil => cases h
  | cons e es ih =>
    obtain ⟨hnew, htail⟩ := List.nodup_cons.1 hnodup
    rcases List.mem_cons.1 h with rfl | h
    · simp [find?]
    · have hne : e.1 ≠ key := by
        intro hkey
        apply hnew
        rw [hkey]
        exact List.mem_map_of_mem (f := Prod.fst) h
      simp [find?, hne, ih htail h]

theorem find?_filterMap (f : Text → α → Option β) {es : Entries α} (hnodup : (keys es).Nodup)
    (key : Text) :
    find? key (es.filterMap fun (key, value) => (f key value).map fun image => (key, image)) =
      (find? key es).bind (f key) := by
  induction es with
  | nil => rfl
  | cons e es ih =>
    obtain ⟨hnew, htail⟩ := List.nodup_cons.1 hnodup
    have htail := ih htail
    by_cases hkey : e.1 = key
    · subst hkey
      -- An entry without an image must not be made up for by a later one.
      rw [find?_of_notMem hnew] at htail
      cases he : f e.1 e.2 with
      | none => simpa [find?, he] using htail
      | some image => simp [find?, he]
    · cases he : f e.1 e.2 with
      | none => simpa [find?, hkey, he] using htail
      | some image => simpa [find?, hkey, he] using htail

theorem filterMap_beside {f g : Text → α → Option β} {other : Text}
    (h : ∀ key, key ≠ other → f key = g key) (es : Entries α) :
    (es.filterMap fun (key, value) => (f key value).map fun image => (key, image)).filter
        (fun e => e.1 ≠ other) =
      (es.filterMap fun (key, value) => (g key value).map fun image => (key, image)).filter
        (fun e => e.1 ≠ other) := by
  induction es with
  | nil => rfl
  | cons e es ih =>
    by_cases hkey : e.1 = other
    · subst hkey
      cases hf : f e.1 e.2 <;> cases hg : g e.1 e.2 <;> simpa [hf, hg] using ih
    · cases hg : g e.1 e.2 <;> simpa [h e.1 hkey, hg, hkey] using ih

/-- Two rows of entries have the same keys in the same places, and related values under them. -/
def Related (R : α → β → Prop) (es : Entries α) (ds : Entries β) : Prop :=
  List.Forall₂ (fun e d => e.1 = d.1 ∧ R e.2 d.2) es ds

theorem Related.keys_eq {R : α → β → Prop} {es : Entries α} {ds : Entries β} (h : Related R es ds) :
    keys es = keys ds := by
  unfold Related at h
  induction h with
  | nil => rfl
  | cons hhead _ ih =>
    unfold keys at ih ⊢
    rw [List.map_cons, List.map_cons, hhead.1, ih]

theorem Related.exists_find? {R : α → β → Prop} {es : Entries α} {ds : Entries β} {key : Text}
    {value : β} (h : Related R es ds) (hfind : find? key ds = some value) :
    ∃ image, find? key es = some image ∧ R image value := by
  unfold Related at h
  induction h with
  | nil => cases hfind
  | @cons e d _ _ hhead _ ih =>
    unfold find? at hfind ⊢
    rw [hhead.1]
    split at hfind
    · rename_i hkey
      cases hfind
      exact ⟨e.2, if_pos hkey, hhead.2⟩
    · rename_i hkey
      rw [if_neg hkey]
      exact ih hfind

/-- Entries that stand in the same places under the same keys are those that are found under them.
-/
theorem forall₂_iff_find? {R : Text → α → β → Prop} {es : Entries α}
    {ds : Entries β} (hnodup : (keys ds).Nodup) :
    List.Forall₂ (fun e d => e.1 = d.1 ∧ R e.1 e.2 d.2) es ds ↔
      keys ds = keys es ∧
        ∀ key v, (key, v) ∈ es → ∃ w, find? key ds = some w ∧ R key v w := by
  induction es generalizing ds with
  | nil => cases ds <;> simp [keys]
  | cons e es ih =>
    cases ds with
    | nil => simp [keys]
    | cons d ds =>
      obtain ⟨hnew, htail⟩ := List.nodup_cons.1 hnodup
      -- The first key is not found again behind it, so the rest is found as if it stood alone.
      have hfind {key : Text} {v : α} (hkeys : keys ds = keys es) (he : (key, v) ∈ es) :
          find? key (d :: ds) = find? key ds := by
        have hkey : key ∈ keys ds := hkeys ▸ List.mem_map_of_mem (f := Prod.fst) he
        refine if_neg fun hsame => hnew ?_
        rwa [hsame]
      rw [List.forall₂_cons, ih htail]
      constructor
      · rintro ⟨⟨hkey, hhead⟩, hkeys, hall⟩
        refine ⟨List.cons_eq_cons.2 ⟨hkey.symm, hkeys⟩, ?_⟩
        intro key v he
        rcases List.mem_cons.1 he with rfl | he
        · exact ⟨d.2, if_pos hkey.symm, hhead⟩
        · rw [hfind hkeys he]
          exact hall key v he
      · rintro ⟨hkeys, hall⟩
        obtain ⟨hkey, hkeys⟩ := List.cons_eq_cons.1 hkeys
        obtain ⟨w, hw, hhead⟩ := hall e.1 e.2 List.mem_cons_self
        obtain rfl : d.2 = w := Option.some.inj ((if_pos hkey).symm.trans hw)
        refine ⟨⟨hkey.symm, hhead⟩, hkeys, ?_⟩
        intro key v he
        rw [← hfind hkeys he]
        exact hall key v (List.mem_cons_of_mem _ he)

end Entries

namespace Table

variable {α β : Type} (t : Table α)

theorem ofList_entries : ofList t.entries = t := by
  obtain ⟨entries, hnodup⟩ := t
  simp [ofList, Entries.ofList_of_nodup hnodup]

theorem find?_eq_some_iff {key : Text} {value : α} :
    t.find? key = some value ↔ (key, value) ∈ t.entries :=
  ⟨Entries.mem_of_find?, Entries.find?_of_mem t.nodup⟩

theorem contains_iff {key : Text} : t.contains key = true ↔ key ∈ t.keys := by
  rw [contains, Option.isSome_iff_exists]
  constructor
  · rintro ⟨value, hvalue⟩
    exact List.mem_map_of_mem (f := Prod.fst) (t.find?_eq_some_iff.1 hvalue)
  · intro hkey
    obtain ⟨⟨key, value⟩, hmem, rfl⟩ := List.mem_map.1 hkey
    exact ⟨value, t.find?_eq_some_iff.2 hmem⟩

@[simp] theorem find?_filterMap (f : Text → α → Option β) (key : Text) :
    (t.filterMap f).find? key = (t.find? key).bind (f key) :=
  Entries.find?_filterMap f t.nodup key

theorem mem_filterMap {f : Text → α → Option β} {key : Text} {image : β} :
    (key, image) ∈ (t.filterMap f).entries ↔
      ∃ value, (key, value) ∈ t.entries ∧ f key value = some image := by
  simp only [← find?_eq_some_iff, find?_filterMap, Option.bind_eq_some_iff]

theorem find?_filterMap_of_mem {f : Text → α → Option β} {key : Text} {value : α}
    (h : (key, value) ∈ t.entries) : (t.filterMap f).find? key = f key value := by
  rw [find?_filterMap, t.find?_eq_some_iff.2 h, Option.bind_some]

/-- The entries with an image and those without make up the table. -/
theorem size_filterMap_add (f : Text → α → Option β) :
    (t.filterMap f).size +
      (t.entries.filter fun e => !(t.filterMap f).contains e.1).length = t.size := by
  have hkept : (t.filterMap f).size =
      t.entries.countP fun e => (t.filterMap f).contains e.1 := by
    unfold size filterMap
    rw [List.length_filterMap_eq_countP]
    apply List.countP_congr
    intro e he
    have hfind := t.find?_filterMap_of_mem (f := f) he
    unfold filterMap at hfind
    simp [contains, hfind]
  rw [hkept, ← List.countP_eq_length_filter, size,
    List.length_eq_countP_add_countP fun e => (t.filterMap f).contains e.1]
  simp

end Table

end SchemaQuery
