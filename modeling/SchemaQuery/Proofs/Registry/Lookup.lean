import SchemaQuery.Proofs.Table
import SchemaQuery.Registry

/-!
# Names in the registry

A name leads to the database that is registered under it, or else to the last one whose name differs
from it in case only. The registered name then leads to itself, so looking up a name twice comes to
the same as looking it up once.
-/

namespace SchemaQuery.Registry

variable {r : Registry} {name key id : Text}

/-- A name leads to a registered name and the id that is registered with it. -/
inductive Finds (r : Registry) (name : Text) : Text → Text → Prop
  | exact {id : Text} : (name, id) ∈ r.ids.entries → Finds r name name id
  /-- No later name folds like this one. -/
  | folded (before after : List Text) {key id : Text} : name ∉ r.ids.keys →
    r.ids.keys = before ++ key :: after → key.caseFold = name.caseFold →
    (∀ later ∈ after, later.caseFold ≠ name.caseFold) → (key, id) ∈ r.ids.entries →
    Finds r name key id

theorem canonicalName?_of_mem (h : name ∈ r.ids.keys) : r.canonicalName? name = some name := by
  rw [canonicalName?, contains, r.ids.contains_iff.2 h, if_pos rfl]

theorem canonicalName?_of_notMem (h : name ∉ r.ids.keys) :
    r.canonicalName? name =
      r.ids.keys.reverse.find? fun key => key.caseFold = name.caseFold := by
  rw [← r.ids.contains_iff, Bool.not_eq_true] at h
  simp [canonicalName?, contains, h]

theorem mem_of_canonicalName? (h : r.canonicalName? name = some key) : key ∈ r.ids.keys := by
  by_cases hname : name ∈ r.ids.keys
  · rw [canonicalName?_of_mem hname] at h
    cases h
    exact hname
  · rw [canonicalName?_of_notMem hname] at h
    exact List.mem_reverse.1 (List.mem_of_find?_eq_some h)

theorem resolve?_eq_some_iff_canonicalName? :
    r.resolve? name = some (key, id) ↔
      r.canonicalName? name = some key ∧ (key, id) ∈ r.ids.entries := by
  simp only [resolve?, Option.bind_eq_bind, Option.bind_eq_some_iff, Option.pure_def,
    Option.some.injEq, Prod.mk.injEq, ← r.ids.find?_eq_some_iff]
  constructor
  · rintro ⟨_, hkey, _, hid, rfl, rfl⟩
    exact ⟨hkey, hid⟩
  · rintro ⟨hkey, hid⟩
    exact ⟨key, hkey, id, hid, rfl, rfl⟩

theorem resolve?_eq_some_iff : r.resolve? name = some (key, id) ↔ r.Finds name key id := by
  rw [resolve?_eq_some_iff_canonicalName?]
  by_cases hname : name ∈ r.ids.keys
  · rw [canonicalName?_of_mem hname]
    constructor
    · rintro ⟨⟨⟩, hid⟩
      exact .exact hid
    · intro hfinds
      cases hfinds with
      | exact hid => exact ⟨rfl, hid⟩
      | folded _ _ hnot => exact absurd hname hnot
  · rw [canonicalName?_of_notMem hname, List.find?_eq_some_iff_append]
    constructor
    · rintro ⟨⟨hfold, after, before, hkeys, hlast⟩, hid⟩
      refine .folded before.reverse after.reverse hname ?_ (by simpa using hfold)
        (fun later hlater => ?_) hid
      · rw [← List.reverse_reverse r.ids.keys, hkeys]
        simp
      · simpa using hlast later (List.mem_reverse.1 hlater)
    · intro hfinds
      cases hfinds with
      | exact hid => exact absurd (List.mem_map_of_mem (f := Prod.fst) hid) hname
      | folded before after _ hkeys hfold hlast hid =>
        refine ⟨⟨by simpa using hfold, after.reverse, before.reverse, ?_, fun later hlater => ?_⟩,
          hid⟩
        · rw [hkeys]
          simp
        · simpa using hlast later (List.mem_reverse.1 hlater)

theorem resolve?_eq_none_iff :
    r.resolve? name = none ↔ ∀ key ∈ r.ids.keys, key.caseFold ≠ name.caseFold := by
  have hresolve : r.resolve? name = none ↔ r.canonicalName? name = none := by
    constructor
    · intro hnone
      rw [Option.eq_none_iff_forall_ne_some]
      intro key hkey
      obtain ⟨⟨key, id⟩, hmem, rfl⟩ := List.mem_map.1 (mem_of_canonicalName? hkey)
      rw [resolve?_eq_some_iff_canonicalName?.2 ⟨hkey, hmem⟩] at hnone
      cases hnone
    · intro hnone
      simp [resolve?, hnone]
  rw [hresolve]
  by_cases hname : name ∈ r.ids.keys
  · rw [canonicalName?_of_mem hname]
    constructor
    · intro hnone
      cases hnone
    · intro hother
      exact absurd rfl (hother name hname)
  · rw [canonicalName?_of_notMem hname, List.find?_eq_none]
    simp

theorem Finds.mem (h : r.Finds name key id) : (key, id) ∈ r.ids.entries := by
  cases h with
  | exact hid => exact hid
  | folded _ _ _ _ _ _ hid => exact hid

theorem resolve?_of_resolve? (h : r.resolve? name = some (key, id)) :
    r.resolve? key = some (key, id) :=
  resolve?_eq_some_iff.2 (.exact (resolve?_eq_some_iff.1 h).mem)

end SchemaQuery.Registry
