import Mathlib.Data.List.Basic
import Mathlib.Data.List.Induction
import SchemaQuery.Table

/-!
# Tables from repeated writes

A row of writes may write a key several times. The table that it leaves behind has every key that
was written, in the order of their first writes, and under each of them what was written there last.
-/

namespace SchemaQuery.Entries

variable {α β : Type} {key : Text}

/-- What was written last under a key. -/
def last? (key : Text) (writes : Entries α) : Option α := find? key writes.reverse

theorem ofList_concat (writes : Entries α) (key : Text) (value : α) :
    ofList (writes ++ [(key, value)]) = insert key value (ofList writes) :=
  List.foldl_concat ..

theorem mem_keys_ofList (writes : Entries α) : key ∈ keys (ofList writes) ↔ key ∈ keys writes := by
  induction writes using List.reverseRecOn with
  | nil => rfl
  | append_singleton writes w ih =>
    obtain ⟨name, value⟩ := w
    have hkeys : keys (writes ++ [(name, value)]) = keys writes ++ [name] := List.map_append
    rw [ofList_concat, keys_insert, hkeys, List.mem_append, List.mem_singleton]
    split
    · rename_i hname
      rw [ih]
      constructor
      · exact Or.inl
      · rintro (hkey | rfl)
        · exact hkey
        · exact ih.1 hname
    · rw [List.mem_append, List.mem_singleton, ih]

theorem find?_ofList (writes : Entries α) (key : Text) :
    find? key (ofList writes) = last? key writes := by
  induction writes using List.reverseRecOn with
  | nil => rfl
  | append_singleton writes w ih =>
    obtain ⟨name, value⟩ := w
    rw [ofList_concat, last?, List.reverse_concat, find?]
    split
    · rename_i hname
      rw [hname, find?_insert_self]
    · rename_i hname
      rw [find?_insert_of_ne (Ne.symm hname), ih, last?]

/-- The keys of a table stand in the order of their first writes. -/
theorem pairwise_idxOf_ofList (writes : Entries α) :
    (keys (ofList writes)).Pairwise fun a b =>
      (keys writes).idxOf a < (keys writes).idxOf b := by
  induction writes using List.reverseRecOn with
  | nil => exact .nil
  | append_singleton writes w ih =>
    obtain ⟨name, value⟩ := w
    have hkeys : keys (writes ++ [(name, value)]) = keys writes ++ [name] := List.map_append
    have hold {key : Text} (hkey : key ∈ keys (ofList writes)) :
        (keys writes ++ [name]).idxOf key = (keys writes).idxOf key :=
      List.idxOf_append_of_mem ((mem_keys_ofList writes).1 hkey)
    have hbefore : (keys (ofList writes)).Pairwise fun a b =>
        (keys writes ++ [name]).idxOf a < (keys writes ++ [name]).idxOf b := by
      refine ih.imp_of_mem ?_
      intro a b ha hb hab
      rwa [hold ha, hold hb]
    rw [ofList_concat, keys_insert, hkeys]
    split
    · exact hbefore
    · rename_i hname
      have hnew : name ∉ keys writes := mt (mem_keys_ofList writes).2 hname
      rw [List.pairwise_append]
      refine ⟨hbefore, List.pairwise_singleton _ _, ?_⟩
      intro a ha b hb
      obtain rfl := List.mem_singleton.1 hb
      have hwritten := (mem_keys_ofList writes).1 ha
      rw [hold ha, List.idxOf_append_of_notMem hnew]
      exact Nat.lt_of_lt_of_le (List.idxOf_lt_length_of_mem hwritten) (Nat.le_add_right _ _)

theorem find?_map (f : α → β) (key : Text) (es : Entries α) :
    find? key (es.map fun e => (e.1, f e.2)) = (find? key es).map f := by
  induction es with
  | nil => rfl
  | cons e es ih => by_cases h : e.1 = key <;> simp [find?, h, ih]

theorem last?_map (f : α → β) (key : Text) (writes : Entries α) :
    last? key (writes.map fun e => (e.1, f e.2)) = (last? key writes).map f := by
  rw [last?, ← List.map_reverse, find?_map, last?]

end SchemaQuery.Entries
