import Mathlib.Data.List.Forall2
import SchemaQuery.Issue

/-!
# Outcomes of steps and checks

A row of steps that may fail has a result when every step has one. A check that keeps all issues is
valid when there are none.
-/

namespace SchemaQuery

theorem Except.bind_eq_ok {ε α β : Type} {x : Except ε α} {f : α → Except ε β} {b : β} :
    x >>= f = .ok b ↔ ∃ a, x = .ok a ∧ f a = .ok b := by
  cases x with
  | error e => simp [bind, Except.bind]
  | ok a => simp [bind, Except.bind]

theorem Except.map_eq_ok {ε α β : Type} {x : Except ε α} {f : α → β} {b : β} :
    f <$> x = .ok b ↔ ∃ a, x = .ok a ∧ f a = b := by
  cases x with
  | error e => simp [Functor.map, Except.map]
  | ok a => simp [Functor.map, Except.map]

theorem Except.eq_ok_of_toOption {ε α : Type} {x : Except ε α} {a : α} (h : x.toOption = some a) :
    x = .ok a := by
  cases x with
  | error e => cases h
  | ok b => exact congrArg Except.ok (Option.some.inj h)

theorem Except.forM_cons {ε α : Type} (f : α → Except ε Unit) (x : α) (xs : List α) :
    (x :: xs).forM f = f x >>= fun _ => xs.forM f := rfl

theorem Except.forM_eq_ok {ε α : Type} {f : α → Except ε Unit} {xs : List α} :
    xs.forM f = .ok () ↔ ∀ x ∈ xs, f x = .ok () := by
  induction xs with
  | nil =>
    constructor
    · intro _ x hx
      cases hx
    · intro _
      rfl
  | cons x xs ih =>
    rw [Except.forM_cons, Except.bind_eq_ok, List.forall_mem_cons, ← ih]
    constructor
    · rintro ⟨⟨⟩, hx, hxs⟩
      exact ⟨hx, hxs⟩
    · rintro ⟨hx, hxs⟩
      exact ⟨(), hx, hxs⟩

/-- A row of steps fails with the first step that fails. -/
theorem Except.forM_eq_error {ε α : Type} {f : α → Except ε Unit} {xs : List α} {e : ε} :
    xs.forM f = .error e ↔
      ∃ before x after, xs = before ++ x :: after ∧ (∀ y ∈ before, f y = .ok ()) ∧
        f x = .error e := by
  induction xs with
  | nil =>
    constructor
    · intro h
      cases h
    · rintro ⟨before, x, after, h, -⟩
      cases before <;> cases h
  | cons x xs ih =>
    rw [Except.forM_cons]
    cases hx : f x with
    | error d =>
      constructor
      · intro h
        cases h
        exact ⟨[], x, xs, rfl, by simp, hx⟩
      · rintro ⟨before, y, after, heq, hbefore, hy⟩
        cases before with
        | nil =>
          cases heq
          rw [hx] at hy
          cases hy
          rfl
        | cons z before =>
          cases heq
          have hz := hbefore x List.mem_cons_self
          rw [hx] at hz
          cases hz
    | ok _ =>
      refine Iff.trans ih ?_
      constructor
      · rintro ⟨before, y, after, rfl, hbefore, hy⟩
        exact ⟨x :: before, y, after, rfl, List.forall_mem_cons.2 ⟨hx, hbefore⟩, hy⟩
      · rintro ⟨before, y, after, heq, hbefore, hy⟩
        cases before with
        | nil =>
          cases heq
          rw [hx] at hy
          cases hy
        | cons z before =>
          cases heq
          exact ⟨before, y, after, rfl, (List.forall_mem_cons.1 hbefore).2, hy⟩

theorem Except.mapM_eq_ok {ε α β : Type} {f : α → Except ε β} {xs : List α} {ys : List β} :
    xs.mapM f = .ok ys ↔ List.Forall₂ (fun x y => f x = .ok y) xs ys := by
  induction xs generalizing ys with
  | nil =>
    rw [List.forall₂_nil_left_iff]
    constructor
    · rintro ⟨⟩
      rfl
    · rintro rfl
      rfl
  | cons x xs ih =>
    rw [List.mapM_cons, Except.bind_eq_ok, List.forall₂_cons_left_iff]
    constructor
    · rintro ⟨y, hy, h⟩
      obtain ⟨zs, hzs, h⟩ := Except.bind_eq_ok.1 h
      cases h
      exact ⟨y, zs, hy, ih.1 hzs, rfl⟩
    · rintro ⟨y, zs, hy, hzs, rfl⟩
      exact ⟨y, hy, Except.bind_eq_ok.2 ⟨zs, ih.2 hzs, rfl⟩⟩

theorem Except.exists_of_mapM_eq_error {ε α β : Type} {f : α → Except ε β} {xs : List α} {e : ε}
    (h : xs.mapM f = .error e) : ∃ x ∈ xs, f x = .error e := by
  induction xs with
  | nil => cases h
  | cons x xs ih =>
    rw [List.mapM_cons] at h
    cases hx : f x with
    | error d =>
      rw [hx] at h
      cases h
      exact ⟨x, List.mem_cons_self, hx⟩
    | ok y =>
      have hrest : xs.mapM f = .error e := by
        cases hxs : xs.mapM f with
        | error d =>
          rw [hx, hxs] at h
          cases h
          rfl
        | ok ys =>
          rw [hx, hxs] at h
          cases h
      obtain ⟨z, hz, hfz⟩ := ih hrest
      exact ⟨z, List.mem_cons_of_mem _ hz, hfz⟩

theorem forall₂_singleton_left_iff {α β : Type} {R : α → β → Prop} {x : α} {ys : List β} :
    List.Forall₂ R [x] ys ↔ ∃ y, R x y ∧ ys = [y] := by
  simp [List.forall₂_cons_left_iff]

theorem exists_of_forall₂ {α β : Type} {R : α → β → Prop} {xs : List α} {ys : List β}
    (h : List.Forall₂ R xs ys) : ∀ y ∈ ys, ∃ x ∈ xs, R x y := by
  induction h with
  | nil => simp
  | cons hxy _ ih =>
    intro z hz
    rcases List.mem_cons.1 hz with rfl | hz
    · exact ⟨_, List.mem_cons_self, hxy⟩
    · obtain ⟨w, hw, hwz⟩ := ih z hz
      exact ⟨w, List.mem_cons_of_mem _ hw, hwz⟩

theorem Except.exists_of_mem_mapM {ε α β : Type} {f : α → Except ε β} {xs : List α} {ys : List β}
    (h : xs.mapM f = .ok ys) : ∀ y ∈ ys, ∃ x ∈ xs, f x = .ok y :=
  exists_of_forall₂ (Except.mapM_eq_ok.1 h)

namespace Checked

variable {α β : Type}

@[simp] theorem map_valid (f : α → β) (a : α) : f <$> valid a = valid (f a) := rfl

@[simp] theorem within_valid (step : Step) (a : α) : (valid a).within step = valid a := rfl

theorem map_eq_valid {f : α → β} {x : Checked α} {b : β} :
    f <$> x = valid b ↔ ∃ a, x = valid a ∧ f a = b := by
  cases x with
  | valid a => simp
  | invalid issues => simp [Functor.map, map]

theorem seq_eq_valid {f : Checked (α → β)} {x : Checked α} {b : β} :
    f <*> x = valid b ↔ ∃ g a, f = valid g ∧ x = valid a ∧ g a = b := by
  cases f with
  | valid g => cases x <;> simp [Seq.seq, apply, map]
  | invalid issues => cases x <;> simp [Seq.seq, apply]

theorem within_eq_valid {step : Step} {x : Checked α} {a : α} :
    x.within step = valid a ↔ x = valid a := by
  cases x <;> simp [within]

theorem required_eq_valid {key : Text} {check : Json → Checked α} {entries : Entries Json} {a : α} :
    required key check entries = valid a ↔
      ∃ v, Entries.find? key entries = some v ∧ check v = valid a := by
  unfold required
  cases hfind : Entries.find? key entries <;> simp [within_eq_valid, fault]

theorem optional_eq_valid {key : Text} {absent : α} {check : Json → Checked α}
    {entries : Entries Json} {a : α} : optional key absent check entries = valid a ↔
      Entries.find? key entries = none ∧ absent = a ∨
        ∃ v, Entries.find? key entries = some v ∧ check v = valid a := by
  unfold optional
  cases hfind : Entries.find? key entries <;> simp [within_eq_valid]

/-- What is checked beside a value has no part in it, but has to be valid as well. -/
theorem seqLeft_eq_valid_iff {x : Checked α} {y : Checked β} {a : α} :
    x <* y = valid a ↔ x = valid a ∧ ∃ b, y = valid b := by
  cases x with
  | valid b => cases y <;> simp [SeqLeft.seqLeft, Functor.map, apply, map]
  | invalid issues => cases y <;> simp [SeqLeft.seqLeft, Functor.map, apply, map]

theorem seqLeft_eq_valid {x : Checked α} {y : Checked β} {a : α} (h : x <* y = valid a) :
    x = valid a :=
  (seqLeft_eq_valid_iff.1 h).1

/-- The first of two keys that is there is the one that counts. -/
theorem either_eq_valid {key other : Text} {check : Json → Checked α} {entries : Entries Json}
    {a : α} : either key other check entries = valid a ↔
      (∃ v, Entries.find? key entries = some v ∧ check v = valid a) ∨
        (Entries.find? key entries = none ∧
          ∃ v, Entries.find? other entries = some v ∧ check v = valid a) := by
  unfold either
  cases hkey : Entries.find? key entries with
  | some v => simp [required_eq_valid, hkey]
  | none =>
    cases hother : Entries.find? other entries with
    | some w => simp [within_eq_valid]
    | none => simp [required_eq_valid, hkey]

theorem exists_of_either_eq_valid {key other : Text} {check : Json → Checked α}
    {entries : Entries Json} {a : α} (h : either key other check entries = valid a) :
    ∃ v, check v = valid a := by
  obtain ⟨v, -, hv⟩ | ⟨-, v, -, hv⟩ := either_eq_valid.1 h
  · exact ⟨v, hv⟩
  · exact ⟨v, hv⟩

theorem list_eq_valid {xs : List (Checked α)} {ys : List α} :
    list xs = valid ys ↔ xs = ys.map valid := by
  constructor
  · intro h
    induction xs generalizing ys with
    | nil =>
      cases h
      rfl
    | cons x xs ih =>
      unfold list at h
      obtain ⟨_, rest, hx, hrest, rfl⟩ := seq_eq_valid.1 h
      obtain ⟨y, rfl, rfl⟩ := map_eq_valid.1 hx
      rw [List.map_cons, ← ih hrest]
  · rintro rfl
    induction ys with
    | nil => rfl
    | cons y ys ih => simp [list, ih, apply, map]

/-- Items are valid when each of them is, in its place. -/
theorem items_eq_valid {check : Json → Checked α} {xs : List Json} {ys : List α} :
    items check xs = valid ys ↔ List.Forall₂ (fun x y => check x = valid y) xs ys := by
  rw [items, list_eq_valid]
  -- The items are numbered from any number on, for the induction to go through.
  generalize 0 = start
  induction xs generalizing ys start with
  | nil =>
    rw [List.forall₂_nil_left_iff]
    cases ys <;> simp
  | cons x xs ih =>
    rw [List.forall₂_cons_left_iff, List.zipIdx_cons, List.map_cons]
    cases ys with
    | nil => simp
    | cons y ys => simp [within_eq_valid, ih]

theorem items_of_forall {check : Json → Checked α} {write : α → Json} {xs : List α}
    (h : ∀ a ∈ xs, check (write a) = valid a) : items check (xs.map write) = valid xs := by
  rw [items_eq_valid, List.forall₂_map_left_iff, List.forall₂_same]
  exact h

theorem noOthers_eq_valid {known : List Text} {entries : Entries Json} :
    noOthers known entries = valid () ↔ ∀ key ∈ Entries.keys entries, key ∈ known := by
  have hmap : noOthers known entries = (fun _ => ()) <$> list
      (((Entries.keys entries).filter (!known.contains ·)).map fun key =>
        ((fault .unexpected).within (.key key) : Checked Unit)) := rfl
  rw [hmap, map_eq_valid]
  constructor
  · rintro ⟨units, hlist, -⟩ key hkey
    by_contra hunknown
    have hfilter : key ∈ (Entries.keys entries).filter (!known.contains ·) :=
      List.mem_filter.2 ⟨hkey, by simpa using hunknown⟩
    have hfault := List.mem_map_of_mem (f := fun key =>
      ((fault .unexpected).within (.key key) : Checked Unit)) hfilter
    rw [list_eq_valid.1 hlist] at hfault
    obtain ⟨_, -, hvalid⟩ := List.mem_map.1 hfault
    cases hvalid
  · intro h
    have hnone : (Entries.keys entries).filter (!known.contains ·) = [] := by
      rw [List.filter_eq_nil_iff]
      intro key hkey
      simpa using h key hkey
    rw [hnone]
    exact ⟨[], rfl, rfl⟩

end Checked

theorem checkText_eq_valid {v : Json} {t : Text} : v.checkText = .valid t ↔ v = .string t := by
  cases v <;> simp [Json.checkText, Checked.fault]

end SchemaQuery
