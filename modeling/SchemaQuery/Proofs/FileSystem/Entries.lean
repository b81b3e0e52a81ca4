import SchemaQuery.FileSystem

/-!
# Entries of a file system

What an operation does to the entry at one location says what it does to all others: nothing, except
that removing takes everything below a location with it. A path that was followed stays the same as
long as the directories on its way stay.
-/

namespace SchemaQuery.FileSystem

variable {fs : FileSystem}

theorem entry?_of_isGiven {l : Location} (h : isGiven l = true) :
    fs.entry? l = some .directory := by
  unfold entry?
  rw [if_pos h]

theorem entry?_eq {l : Location} (h : isGiven l = false) :
    fs.entry? l = (List.find? (fun e => e.1 = l) fs.entries).map Prod.snd := by
  unfold entry?
  rw [if_neg (by simp [h])]

theorem isGiven_eq_false {l : Location} (h : fs.entry? l ≠ some .directory) :
    isGiven l = false := by
  cases hgiven : isGiven l with
  | false => rfl
  | true => exact absurd (entry?_of_isGiven hgiven) h

theorem entry?_put_self {l : Location} (h : isGiven l = false) (e : FileEntry) :
    entry? (fs.put l e) l = some e := by
  rw [entry?_eq h, put]
  split
  · rename_i hany
    simp only
    generalize fs.entries = entries at hany
    induction entries with
    | nil => simp at hany
    | cons old entries ih =>
      by_cases hold : old.1 = l
      · simp [hold]
      · simpa [hold] using ih (by simpa [hold] using hany)
  · rename_i hany
    have hnone : List.find? (fun old => decide (old.1 = l)) fs.entries = none := by
      rw [List.find?_eq_none]
      exact fun old hold hl => hany (List.any_eq_true.2 ⟨old, hold, hl⟩)
    simp [List.find?_append, hnone]

theorem entry?_put_of_ne {l other : Location} (h : other ≠ l) (e : FileEntry) :
    entry? (fs.put l e) other = fs.entry? other := by
  cases hgiven : isGiven other with
  | true => rw [entry?_of_isGiven hgiven, entry?_of_isGiven hgiven]
  | false =>
    rw [entry?_eq hgiven, entry?_eq hgiven, put]
    split
    · congr 1
      simp only
      induction fs.entries with
      | nil => rfl
      | cons old entries ih =>
        by_cases hold : old.1 = l
        · simpa [hold, Ne.symm h] using ih
        · by_cases hother : old.1 = other
          · simp [hother, h]
          · simpa [hold, hother] using ih
    · simp [List.find?_append, Ne.symm h]

theorem entry?_remove_beside {l other : Location} (h : ¬ l <+: other) :
    entry? (fs.remove l) other = fs.entry? other := by
  cases hgiven : isGiven other with
  | true => rw [entry?_of_isGiven hgiven, entry?_of_isGiven hgiven]
  | false =>
    rw [entry?_eq hgiven, entry?_eq hgiven, remove, List.find?_filter]
    congr 2
    funext old
    by_cases hold : old.1 = other
    · have hbelow : List.isPrefixOf l other = false := by
        rw [← Bool.not_eq_true, List.isPrefixOf_iff_prefix]
        exact h
      simp [hold, hbelow]
    · simp [hold]

theorem entry?_remove_below {l other : Location} (hgiven : isGiven other = false)
    (h : l <+: other) : entry? (fs.remove l) other = none := by
  rw [entry?_eq hgiven, Option.map_eq_none_iff, remove, List.find?_filter, List.find?_eq_none]
  rintro old -
  by_cases hold : old.1 = other
  · simp [hold, h]
  · simp [hold]

/-! ### Following paths -/

theorem follow_cons {l m : Location} {step : Text} {steps : List Text} :
    fs.follow l (step :: steps) = .ok m ↔ fs.entry? l = some .directory ∧
      ∃ next, advance l step = .ok next ∧ fs.follow next steps = .ok m := by
  rw [follow]
  cases hentry : fs.entry? l with
  | none => simp
  | some e =>
    cases e with
    | file content => simp
    | directory => cases hnext : advance l step <;> simp

theorem follow_append {l m : Location} {first last : List Text} :
    fs.follow l (first ++ last) = .ok m ↔
      ∃ between, fs.follow l first = .ok between ∧ fs.follow between last = .ok m := by
  induction first generalizing l with
  | nil => simp [follow]
  | cons step first ih =>
    rw [List.cons_append, follow_cons]
    constructor
    · rintro ⟨hentry, next, hnext, hfollow⟩
      obtain ⟨between, hfirst, hlast⟩ := ih.1 hfollow
      exact ⟨between, follow_cons.2 ⟨hentry, next, hnext, hfirst⟩, hlast⟩
    · rintro ⟨between, hfirst, hlast⟩
      obtain ⟨hentry, next, hnext, hfollow⟩ := follow_cons.1 hfirst
      exact ⟨hentry, next, hnext, ih.2 ⟨between, hfollow, hlast⟩⟩

/-- No step leads further down than to an entry of the directory. -/
theorem prefix_or_eq_of_advance {l next t : Location} {step : Text} (h : advance l step = .ok next)
    (ht : isGiven t = false) (hbelow : t <+: next) : t <+: l ∨ t = next := by
  have hne : t ≠ [] := by
    rintro rfl
    exact absurd ht (by decide)
  have hconcat {name : Text} (h : t <+: l ++ [name]) : t <+: l ∨ t = l ++ [name] :=
    (List.prefix_concat_iff.1 h).symm
  unfold advance at h
  split at h
  · cases h
    have hroot : t <+: [] ++ [FilePath.root] := hbelow
    rcases List.prefix_concat_iff.1 hroot with rfl | hnil
    · exact Or.inr rfl
    · exact absurd (List.prefix_nil.1 hnil) hne
  split at h
  · cases h
    exact Or.inl hbelow
  split at h
  · cases h
    unfold up at hbelow ⊢
    split at hbelow
    · exact Or.inl hbelow
    split at hbelow
    · rw [if_neg ‹_›, if_pos ‹_›]
      exact hconcat hbelow
    · exact Or.inl (hbelow.trans (List.dropLast_prefix l))
  split at h
  · cases h
  · cases h
    exact hconcat hbelow

/-- A path only depends on the directories that it goes through. -/
theorem follow_congr {other : FileSystem} {Q : Location → Prop}
    (hkeep : ∀ l, Q l → fs.entry? l = some .directory → other.entry? l = some .directory)
    (hstep : ∀ l next step,
      Q l → fs.entry? l = some .directory → advance l step = .ok next → Q next)
    {l m : Location} (hl : Q l) {steps : List Text} (h : fs.follow l steps = .ok m) :
    other.follow l steps = .ok m := by
  induction steps generalizing l with
  | nil => exact h
  | cons step steps ih =>
    obtain ⟨hentry, next, hnext, hfollow⟩ := follow_cons.1 h
    exact follow_cons.2
      ⟨hkeep l hl hentry, next, hnext, ih (hstep l next step hl hentry hnext) hfollow⟩

theorem follow_mono {other : FileSystem}
    (hkeep : ∀ l, fs.entry? l = some .directory → other.entry? l = some .directory)
    {l m : Location} {steps : List Text} (h : fs.follow l steps = .ok m) :
    other.follow l steps = .ok m :=
  follow_congr (Q := fun _ => True) (fun l _ => hkeep l) (fun _ _ _ _ _ _ => trivial) trivial h

/-- A path goes nowhere below something that is no directory, so what happens there, and to it,
leaves the path alone. -/
theorem follow_of_directories {other : FileSystem} {t : Location}
    (ht : fs.entry? t ≠ some .directory)
    (hkeep : ∀ l, ¬ t <+: l → fs.entry? l = some .directory → other.entry? l = some .directory)
    {m : Location} {steps : List Text} (h : fs.follow [] steps = .ok m) :
    other.follow [] steps = .ok m := by
  have hgiven := isGiven_eq_false ht
  have hoff {l : Location} (hl : ¬ t <+: l ∨ t = l) (hentry : fs.entry? l = some .directory) :
      ¬ t <+: l := by
    rcases hl with hl | rfl
    · exact hl
    · exact absurd hentry ht
  refine follow_congr (Q := fun l => ¬ t <+: l ∨ t = l)
    (fun l hl hentry => hkeep l (hoff hl hentry) hentry) ?_ (Or.inl ?_) h
  · intro l next step hl hentry hnext
    by_cases hbelow : t <+: next
    · exact Or.inr ((prefix_or_eq_of_advance hnext hgiven hbelow).resolve_left (hoff hl hentry))
    · exact Or.inl hbelow
  · rw [List.prefix_nil]
    rintro rfl
    exact absurd hgiven (by decide)

theorem locate_eq_ok {steps : List Text} {l : Location} :
    fs.locate steps = .ok l ↔
      checkSpelling (FilePath.spelling steps) = .ok () ∧ fs.follow [] steps = .ok l := by
  cases h : checkSpelling (FilePath.spelling steps) <;> simp [locate, h, bind, Except.bind]

theorem locate_mono {other : FileSystem}
    (hkeep : ∀ l, fs.entry? l = some .directory → other.entry? l = some .directory)
    {l : Location} {steps : List Text} (h : fs.locate steps = .ok l) :
    other.locate steps = .ok l :=
  locate_eq_ok.2 ((locate_eq_ok.1 h).imp_right (follow_mono hkeep))

end SchemaQuery.FileSystem
