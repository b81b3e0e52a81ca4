import SchemaQuery.Text

/-!
# Joined texts

A joined text holds its parts, and nothing but its separator besides. Parts that are joined by a
mark are found again between the marks, those of each part on their own, so there are as many pieces
as parts exactly when the mark stands in none of them.
-/

namespace SchemaQuery.Text

variable {mark : CodePoint} {separator s t : Text} {parts : List Text}

theorem forall_mem_join {P : CodePoint → Prop} (hseparator : ∀ c ∈ separator, P c)
    (h : ∀ part ∈ parts, ∀ c ∈ part, P c) : ∀ c ∈ join separator parts, P c := by
  induction parts with
  | nil => simp [join]
  | cons part parts ih =>
    have hpart := h part List.mem_cons_self
    have hparts := ih fun p hp => h p (List.mem_cons_of_mem _ hp)
    cases parts with
    | nil => simpa [join] using hpart
    | cons next parts =>
      rw [join, List.intercalate_cons_cons, List.forall_mem_append, List.forall_mem_append]
      exact ⟨⟨hpart, hseparator⟩, hparts⟩

theorem isInfix_join {part : Text} (h : part ∈ parts) (separator : Text) :
    part <:+: join separator parts := by
  unfold join
  induction parts with
  | nil => cases h
  | cons first parts ih =>
    cases parts with
    | nil =>
      obtain rfl := List.mem_singleton.1 h
      exact ⟨[], [], by simp⟩
    | cons second parts =>
      rw [List.intercalate_cons_cons]
      rcases List.mem_cons.1 h with rfl | h
      · exact ⟨[], separator ++ List.intercalate separator (second :: parts), by simp⟩
      · exact (ih h).trans ⟨first ++ separator, [], by simp⟩

/-! ### Pieces -/

theorem splitAtMark_ne_nil (mark : CodePoint) (t : Text) : splitAtMark mark t ≠ [] := by
  cases t with
  | nil => simp [splitAtMark]
  | cons c t =>
    unfold splitAtMark
    split
    · exact List.cons_ne_nil _ _
    · split <;> exact List.cons_ne_nil _ _

theorem length_splitAtMark (mark : CodePoint) (t : Text) :
    (splitAtMark mark t).length = t.count mark + 1 := by
  induction t with
  | nil => rfl
  | cons c t ih =>
    unfold splitAtMark
    by_cases hc : c = mark
    · rw [if_pos hc, List.length_cons, ih, hc, List.count_cons_self]
    · obtain ⟨piece, pieces, hpieces⟩ := List.exists_cons_of_ne_nil (splitAtMark_ne_nil mark t)
      rw [if_neg hc, hpieces, List.count_cons_of_ne hc, ← ih, hpieces]
      rfl

theorem splitAtMark_of_notMem (h : mark ∉ t) : splitAtMark mark t = [t] := by
  induction t with
  | nil => rfl
  | cons c t ih =>
    rw [List.mem_cons, not_or] at h
    obtain ⟨hc, ht⟩ := h
    rw [splitAtMark, if_neg (Ne.symm hc), ih ht]

theorem splitAtMark_append_cons (mark : CodePoint) (s t : Text) :
    splitAtMark mark (s ++ mark :: t) = splitAtMark mark s ++ splitAtMark mark t := by
  induction s with
  | nil => simp [splitAtMark]
  | cons c s ih =>
    rw [List.cons_append, splitAtMark, splitAtMark, ih]
    split
    · rfl
    · obtain ⟨piece, pieces, hpieces⟩ := List.exists_cons_of_ne_nil (splitAtMark_ne_nil mark s)
      rw [hpieces]
      rfl

theorem splitAtMark_join (mark : CodePoint) (h : parts ≠ []) :
    splitAtMark mark (join [mark] parts) = parts.flatMap (splitAtMark mark) := by
  induction parts with
  | nil => exact absurd rfl h
  | cons part parts ih =>
    cases parts with
    | nil => simp [join]
    | cons next parts =>
      have hparts := ih (List.cons_ne_nil next parts)
      rw [join] at hparts
      rw [join, List.intercalate_cons_cons, List.append_assoc, List.singleton_append,
        splitAtMark_append_cons, hparts]
      rfl

theorem length_splitAtMark_join (mark : CodePoint) (h : parts ≠ []) :
    (splitAtMark mark (join [mark] parts)).length = parts.length + parts.flatten.count mark := by
  rw [splitAtMark_join mark h]
  clear h
  induction parts with
  | nil => rfl
  | cons part parts ih =>
    rw [List.flatMap_cons, List.length_append, ih, length_splitAtMark, List.length_cons,
      List.flatten_cons, List.count_append]
    omega

theorem length_splitAtMark_join_eq_iff (h : parts ≠ []) :
    (splitAtMark mark (join [mark] parts)).length = parts.length ↔ ∀ part ∈ parts, mark ∉ part := by
  have hlength := length_splitAtMark_join mark h
  constructor
  · intro hsame part hpart hmark
    have hcount := List.count_pos_iff.2 (List.mem_flatten_of_mem hpart hmark)
    omega
  · intro hnone
    have hcount : parts.flatten.count mark = 0 := by
      rw [List.count_eq_zero]
      intro hmark
      obtain ⟨part, hpart, hmem⟩ := List.mem_flatten.1 hmark
      exact hnone part hpart hmem
    omega

theorem splitAtMark_join_of_notMem (h : parts ≠ []) (hnone : ∀ part ∈ parts, mark ∉ part) :
    splitAtMark mark (join [mark] parts) = parts := by
  rw [splitAtMark_join mark h]
  clear h
  induction parts with
  | nil => rfl
  | cons part parts ih =>
    obtain ⟨hpart, hparts⟩ := List.forall_mem_cons.1 hnone
    rw [List.flatMap_cons, splitAtMark_of_notMem hpart, ih hparts]
    rfl

end SchemaQuery.Text
