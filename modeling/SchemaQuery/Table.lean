import SchemaQuery.Text

/-!
# Ordered tables

A table sends texts to values and remembers the order in which its keys were first written. Writing
a key again keeps its place and replaces its value. `Entries` are such tables as bare lists, the
form in which documents hold them; a `Table` also promises that no key stands twice.
-/

namespace SchemaQuery

abbrev Entries (α : Type) := List (Text × α)

namespace Entries

variable {α β : Type}

def keys (es : Entries α) : List Text := es.map Prod.fst

/-- Writes a key: in its place if it is there, else at the end. -/
def insert (key : Text) (value : α) : Entries α → Entries α
  | [] => [(key, value)]
  | (k, v) :: es => if k = key then (k, value) :: es else (k, v) :: insert key value es

def find? (key : Text) : Entries α → Option α
  | [] => none
  | (k, v) :: es => if k = key then some v else find? key es

/-- The table that a row of writes leaves behind. -/
def ofList (writes : List (Text × α)) : Entries α :=
  writes.foldl (fun es (k, v) => insert k v es) []

@[simp] theorem find?_insert_self (key : Text) (value : α) (es : Entries α) :
    find? key (insert key value es) = some value := by
  induction es with
  | nil => simp [insert, find?]
  | cons e es ih => by_cases h : e.1 = key <;> simp [insert, find?, h, ih]

theorem find?_insert_of_ne {key other : Text} (h : other ≠ key) (value : α) (es : Entries α) :
    find? other (insert key value es) = find? other es := by
  induction es with
  | nil => simp [insert, find?, Ne.symm h]
  | cons e es ih =>
    by_cases he : e.1 = key
    · simp [insert, find?, he, Ne.symm h]
    · simp [insert, find?, he, ih]

theorem keys_insert (key : Text) (value : α) (es : Entries α) :
    keys (insert key value es) = if key ∈ keys es then keys es else keys es ++ [key] := by
  induction es with
  | nil => simp [insert, keys]
  | cons e es ih =>
    by_cases he : e.1 = key
    · simp [insert, keys, he]
    · have hk : key ∉ [e.1] := by simpa using fun h => he h.symm
      simp only [insert, he, if_false, keys, List.map_cons, List.mem_cons] at ih ⊢
      have : ¬ key = e.1 := fun h => he h.symm
      by_cases hm : key ∈ es.map Prod.fst <;> simp [ih, hm, this]

theorem nodup_keys_insert {key : Text} {value : α} {es : Entries α} (h : (keys es).Nodup) :
    (keys (insert key value es)).Nodup := by
  rw [keys_insert]
  split
  · exact h
  · rename_i hk
    rw [List.nodup_append]
    exact ⟨h, by simp, fun a ha b hb hab => hk (by simp_all)⟩

theorem nodup_keys_ofList (writes : List (Text × α)) : (keys (ofList writes)).Nodup := by
  have : ∀ es : Entries α, (keys es).Nodup →
      (keys (writes.foldl (fun es (k, v) => insert k v es) es)).Nodup := by
    induction writes with
    | nil => exact fun _ h => h
    | cons w writes ih => exact fun es h => ih _ (nodup_keys_insert h)
  exact this [] (by simp [keys])

theorem keys_filterMap_sublist (f : Text → α → Option β) (es : Entries α) :
    List.Sublist
      (keys (es.filterMap fun (key, value) => (f key value).map fun image => (key, image)))
      (keys es) := by
  induction es with
  | nil => exact List.Sublist.slnil
  | cons e es ih =>
    cases he : f e.1 e.2 with
    | none => simpa [he, keys] using List.Sublist.cons e.1 ih
    | some image => simpa [he, keys] using ih

end Entries

/-- An ordered table without repeated keys. -/
structure Table (α : Type) where
  entries : Entries α
  nodup : entries.keys.Nodup

namespace Table

variable {α β : Type} (t : Table α)

def empty : Table α := ⟨[], by simp [Entries.keys]⟩

instance : Inhabited (Table α) := ⟨empty⟩

def ofList (writes : List (Text × α)) : Table α :=
  ⟨Entries.ofList writes, Entries.nodup_keys_ofList writes⟩

def find? (key : Text) : Option α := t.entries.find? key

def contains (key : Text) : Bool := (t.find? key).isSome

def keys : List Text := t.entries.keys

/-- The images of the values that have one, under their keys. -/
def filterMap (f : Text → α → Option β) : Table β where
  entries := t.entries.filterMap fun (key, value) => (f key value).map fun image => (key, image)
  nodup := (Entries.keys_filterMap_sublist f t.entries).nodup t.nodup

def size : Nat := t.entries.length

end Table

end SchemaQuery
