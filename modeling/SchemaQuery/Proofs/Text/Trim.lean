import Mathlib.Data.List.TakeWhile
import SchemaQuery.Text.Blank

/-!
# Trimmed texts

Trimming takes code points off the ends of a text and leaves what is between them alone. So a text
is trimmed to itself exactly when it neither begins nor ends with such a code point.
-/

namespace SchemaQuery.Text

variable {p : CodePoint → Bool} {c : CodePoint} {t : Text}

theorem trimRight_append_cons (h : p c = false) (s t : Text) :
    trimRight p (s ++ c :: t) = s ++ c :: trimRight p t := by
  simp only [trimRight, List.reverse_append, List.reverse_cons, List.append_assoc,
    List.singleton_append, List.dropWhile_append]
  split
  · rename_i hempty
    rw [List.isEmpty_iff.1 hempty]
    simp [h]
  · simp

theorem trimRight_cons (h : p c = false) (t : Text) :
    trimRight p (c :: t) = c :: trimRight p t :=
  trimRight_append_cons h [] t

theorem dropWhile_eq_self_iff_head? : t.dropWhile p = t ↔ ∀ c ∈ t.head?, p c = false := by
  rw [List.dropWhile_eq_self_iff]
  cases t <;> simp

theorem trim_eq_self_iff : t.trim p = t ↔
    (∀ c ∈ t.head?, p c = false) ∧ ∀ c ∈ t.getLast?, p c = false := by
  rw [← List.head?_reverse, ← dropWhile_eq_self_iff_head?, ← dropWhile_eq_self_iff_head?]
  unfold trim
  constructor
  · intro h
    -- What is dropped at either end would be missing in the length.
    have hfront : t.dropWhile p = t := by
      apply (List.dropWhile_suffix p).eq_of_length
      have hlength := congrArg List.length h
      have hback := (List.dropWhile_suffix (l := (t.dropWhile p).reverse) p).length_le
      have hdrop := (List.dropWhile_suffix (l := t) p).length_le
      simp only [List.length_reverse] at hlength hback
      omega
    rw [hfront, List.reverse_eq_iff] at h
    exact ⟨hfront, h⟩
  · rintro ⟨hfront, hback⟩
    rw [hfront, hback, List.reverse_reverse]

theorem trim_eq_self {d : CodePoint} (hc : p c = false) (hd : p d = false) (t : Text) :
    trim p (c :: (t ++ [d])) = c :: (t ++ [d]) := by
  rw [trim_eq_self_iff, ← List.cons_append, List.getLast?_concat]
  simp [hc, hd]

theorem eq_false_of_mem_head?_dropWhile (h : c ∈ (t.dropWhile p).head?) : p c = false := by
  have hhead := List.head?_dropWhile_not p t
  rw [Option.mem_def.1 h] at hhead
  exact hhead

/-- Behind a text without its end stands the end that was taken off. -/
theorem exists_trimRight (p : CodePoint → Bool) (t : Text) :
    ∃ u, (∀ c ∈ u, p c = true) ∧ t = t.trimRight p ++ u := by
  refine ⟨(t.reverse.takeWhile p).reverse,
    fun c hc => List.mem_takeWhile_imp (List.mem_reverse.1 hc), ?_⟩
  rw [trimRight, ← List.reverse_append, List.takeWhile_append_dropWhile, List.reverse_reverse]

theorem eq_false_of_mem_getLast?_trimRight (h : c ∈ (t.trimRight p).getLast?) : p c = false := by
  rw [trimRight, List.getLast?_reverse] at h
  exact eq_false_of_mem_head?_dropWhile h

/-- Behind the code points that are dropped in front stands the trimmed text. -/
theorem exists_dropWhile_eq (p : CodePoint → Bool) (t : Text) :
    ∃ u, (∀ c ∈ u, p c = true) ∧ t.dropWhile p = t.trim p ++ u :=
  exists_trimRight p (t.dropWhile p)

/-- What trimming takes off stands at the ends. -/
theorem exists_trim (p : CodePoint → Bool) (t : Text) :
    ∃ s u, (∀ c ∈ s, p c = true) ∧ (∀ c ∈ u, p c = true) ∧ t = s ++ (t.trim p ++ u) := by
  obtain ⟨u, hu, hdrop⟩ := exists_dropWhile_eq p t
  refine ⟨t.takeWhile p, u, fun c hc => List.mem_takeWhile_imp hc, hu, ?_⟩
  rw [← hdrop, List.takeWhile_append_dropWhile]

theorem trim_trim : (t.trim p).trim p = t.trim p := by
  rw [trim_eq_self_iff]
  constructor
  · intro c hc
    obtain ⟨u, -, hdrop⟩ := exists_dropWhile_eq p t
    apply eq_false_of_mem_head?_dropWhile (t := t)
    rw [hdrop, List.head?_append, Option.mem_def.1 hc]
    rfl
  · intro c hc
    rw [trim, List.getLast?_reverse] at hc
    exact eq_false_of_mem_head?_dropWhile hc

theorem trim_surrounded {s u : Text} (hs : ∀ c ∈ s, p c = true) (ht : t.trim p = t)
    (hu : ∀ c ∈ u, p c = true) : trim p (s ++ (t ++ u)) = t := by
  obtain ⟨hhead, hlast⟩ := trim_eq_self_iff.1 ht
  rw [← List.head?_reverse] at hlast
  unfold trim
  rw [List.dropWhile_append_of_pos hs]
  cases t with
  | nil => rw [List.nil_append, List.dropWhile_eq_nil_iff.2 hu]; rfl
  | cons c t =>
    have hfirst : (c :: t ++ u).dropWhile p = c :: t ++ u :=
      dropWhile_eq_self_iff_head?.2 (by simpa using hhead)
    have hback : ∀ d ∈ u.reverse, p d = true := fun d hd => hu d (List.mem_reverse.1 hd)
    rw [hfirst, List.reverse_append, List.dropWhile_append_of_pos hback,
      dropWhile_eq_self_iff_head?.2 hlast, List.reverse_reverse]

theorem stripped_subset (t : Text) : t.stripped ⊆ t := by
  obtain ⟨s, u, -, -, ht⟩ := exists_trim CodePoint.isWhiteSpace t
  intro c hc
  rw [ht]
  exact List.mem_append_right s (List.mem_append_left u hc)

end SchemaQuery.Text
