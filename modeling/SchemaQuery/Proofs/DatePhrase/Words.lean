import SchemaQuery.DatePhrase
import SchemaQuery.Proofs.Outcome

/-!
# The words of date phrases

The words of a phrase are the ordinal endings, `of` and the names of the months. A word may be
spelled in any case, and none of them begins another one, so a text begins with at most one of them.
Letters, blanks and digits exclude one another, which is why a phrase falls into its parts in one
way only.
-/

namespace SchemaQuery

namespace CodePoint

variable {c : CodePoint}

theorem decimalDigit?_eq_none_iff :
    c.decimalDigit? = none ↔ ∀ row ∈ zeros, c.value < row ∨ row + 10 ≤ c.value := by
  simp only [decimalDigit?, Option.map_eq_none_iff, List.find?_eq_none, Bool.and_eq_true,
    decide_eq_true_eq, not_and, Nat.not_lt]
  apply forall₂_congr
  intro row _
  omega

theorem decimalDigit?_of_isBlank (h : c.isBlank = true) : c.decimalDigit? = none := by
  rw [decimalDigit?_eq_none_iff]
  intro row hmem
  have hrows : ∀ row ∈ zeros, 0x20 < row ∧ (row + 10 = 0x3A ∨ 0xA0 < row) ∧
      (row + 10 ≤ 0x1680 ∨ 0x1680 < row) ∧ (row + 10 ≤ 0x2000 ∨ 0x3000 < row) := by
    decide
  have hrow := hrows row hmem
  simp only [isBlank, isWhiteSpace, Bool.or_eq_true, Bool.and_eq_true, beq_iff_eq,
    decide_eq_true_eq] at h
  omega

end CodePoint

namespace DatePhrase

def letters : List Char :=
  ['a', 'b', 'c', 'd', 'e', 'f', 'g', 'h', 'i', 'j', 'k', 'l', 'm', 'n', 'o', 'p', 'q', 'r', 's',
    't', 'u', 'v', 'w', 'x', 'y', 'z']

def forms (letter : Char) : List Char :=
  if letter = 's' then ['s', 'S', 'ſ']
  else if letter = 'i' then ['i', 'I', 'İ', 'ı']
  else [letter, letter.toUpper]

theorem isLetter_iff {letter : Char} {c : CodePoint} :
    isLetter letter c = true ↔ ∃ form ∈ forms letter, c = .scalar form := by
  cases c with
  | surrogate => simp [isLetter]
  | scalar c =>
    by_cases hs : letter = 's'
    · subst hs
      simp [isLetter, forms, or_assoc]
    · by_cases hi : letter = 'i'
      · subst hi
        simp [isLetter, forms, or_assoc]
      · simp [isLetter, forms, hs, hi]

/-- What stands for a letter is no blank, no digit and no other letter. -/
theorem of_mem_forms : ∀ letter ∈ letters, ∀ form ∈ forms letter,
    (CodePoint.scalar form).isBlank = false ∧ (CodePoint.scalar form).decimalDigit? = none ∧
      ∀ other ∈ letters, form ∈ forms other → other = letter := by
  have hall : (letters.all fun letter => (forms letter).all fun form =>
      decide ((CodePoint.scalar form).isBlank = false ∧
        (CodePoint.scalar form).decimalDigit? = none ∧
        (letters.all fun other => decide (form ∈ forms other → other = letter)) = true)) =
          true := by
    decide +kernel
  simpa only [List.all_eq_true, decide_eq_true_eq] using hall

/-- The words that a phrase is made of. -/
def words : List (List Char) := (["st", "nd", "rd", "th", "of"] ++ monthNames).map String.toList

theorem subset_letters_of_mem_words : ∀ word ∈ words, word ⊆ letters := by
  decide +kernel

theorem ne_nil_of_mem_words : ∀ word ∈ words, word ≠ [] := by
  decide +kernel

/-- No word begins another one. -/
theorem eq_of_prefix_words : ∀ word ∈ words, ∀ other ∈ words, word <+: other → word = other := by
  decide +kernel

/-- The text is the word in some case. -/
def Spells (word : List Char) (t : Text) : Prop :=
  List.Forall₂ (fun letter c => isLetter letter c = true) word t

variable {word other : List Char} {t s rest : Text} {c : CodePoint}

theorem word?_append (h : Spells word s) (rest : Text) :
    word? word (s ++ rest) = some (s, rest) := by
  induction h with
  | nil => rfl
  | cons hletter _ ih => simp [word?, hletter, ih]

theorem of_word? (h : word? word t = some (s, rest)) : t = s ++ rest ∧ Spells word s := by
  induction word generalizing t s with
  | nil =>
    cases h
    exact ⟨rfl, .nil⟩
  | cons letter word ih =>
    cases t with
    | nil => cases h
    | cons d t =>
      unfold word? at h
      split at h
      · rename_i hletter
        obtain ⟨⟨s', rest'⟩, hword, heq⟩ := Option.map_eq_some_iff.1 h
        cases heq
        obtain ⟨rfl, hspells⟩ := ih hword
        exact ⟨rfl, .cons hletter hspells⟩
      · cases h

theorem Spells.ne_nil (h : Spells word s) (hword : word ∈ words) : s ≠ [] := by
  rintro rfl
  cases h
  exact ne_nil_of_mem_words _ hword rfl

theorem Spells.exists_form (h : Spells word s) (hword : word ∈ words) (hc : c ∈ s) :
    ∃ letter ∈ letters, ∃ form ∈ forms letter, c = .scalar form := by
  obtain ⟨letter, hmem, hletter⟩ := exists_of_forall₂ h c hc
  obtain ⟨form, hform, rfl⟩ := isLetter_iff.1 hletter
  exact ⟨letter, subset_letters_of_mem_words _ hword hmem, form, hform, rfl⟩

theorem Spells.isBlank_eq_false (h : Spells word s) (hword : word ∈ words) (hc : c ∈ s) :
    c.isBlank = false := by
  obtain ⟨letter, hletter, form, hform, rfl⟩ := h.exists_form hword hc
  exact (of_mem_forms letter hletter form hform).1

theorem Spells.decimalDigit?_eq_none (h : Spells word s) (hword : word ∈ words) (hc : c ∈ s) :
    c.decimalDigit? = none := by
  obtain ⟨letter, hletter, form, hform, rfl⟩ := h.exists_form hword hc
  exact (of_mem_forms letter hletter form hform).2.1

theorem Spells.prefix_or_prefix (h : Spells word s) (hword : word ⊆ letters)
    (hother : other ⊆ letters) (hread : (word? other (s ++ rest)).isSome) :
    word <+: other ∨ other <+: word := by
  induction h generalizing other with
  | nil => exact Or.inl (List.nil_prefix)
  | @cons letter c word s hletter _ ih =>
    cases other with
    | nil => exact Or.inr List.nil_prefix
    | cons letter' other =>
      rw [List.cons_subset] at hword hother
      simp only [word?, List.cons_append] at hread
      split at hread
      · rename_i hletter'
        obtain ⟨form, hform, rfl⟩ := isLetter_iff.1 hletter
        obtain ⟨form', hform', heq⟩ := isLetter_iff.1 hletter'
        cases heq
        obtain rfl := (of_mem_forms letter hword.1 form hform).2.2 letter' hother.1 hform'
        rw [Option.isSome_map] at hread
        rw [List.cons_prefix_cons, List.cons_prefix_cons]
        rcases ih hword.2 hother.2 hread with h | h
        · exact Or.inl ⟨rfl, h⟩
        · exact Or.inr ⟨rfl, h⟩
      · cases hread

theorem Spells.eq_of_word? (h : Spells word s) (hword : word ∈ words) (hother : other ∈ words)
    (hread : (word? other (s ++ rest)).isSome) : other = word := by
  have hletters := subset_letters_of_mem_words
  rcases h.prefix_or_prefix (hletters _ hword) (hletters _ hother) hread with hle | hle
  · exact (eq_of_prefix_words _ hword _ hother hle).symm
  · exact eq_of_prefix_words _ hother _ hword hle

theorem word?_eq_none (hword : word ∈ words) (h : ∀ c ∈ t.head?, c.isBlank = true) :
    word? word t = none := by
  rw [Option.eq_none_iff_forall_ne_some]
  rintro ⟨s, rest⟩ hread
  obtain ⟨rfl, hspells⟩ := of_word? hread
  cases s with
  | nil => exact hspells.ne_nil hword rfl
  | cons c s =>
    have hblank := h c rfl
    rw [hspells.isBlank_eq_false hword List.mem_cons_self] at hblank
    cases hblank

end DatePhrase

end SchemaQuery
