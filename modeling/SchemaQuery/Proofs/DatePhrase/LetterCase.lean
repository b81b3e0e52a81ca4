import SchemaQuery.Proofs.DatePhrase.Search

/-!
# Letter case in date phrases

The readers of a phrase tell code points apart only as letters of its words, blanks, digits of a
value, and the dotless letter. A change of code points that keeps these apart is not noticed by any
of them, so the phrase that is found remains the same. Writing the letters of ASCII small is such a
change.
-/

namespace SchemaQuery

namespace CodePoint

def asciiLower : CodePoint → CodePoint
  | scalar c => scalar c.toLower
  | surrogate unit => surrogate unit

end CodePoint

namespace DatePhrase

theorem findSome?_congr {α β : Type} {g h : α → Option β} {xs : List α}
    (hall : ∀ x ∈ xs, g x = h x) : xs.findSome? g = xs.findSome? h := by
  rw [← List.head?_filterMap, ← List.head?_filterMap, List.filterMap_congr hall]

/-- A change of code points that the readers of phrases do not notice. -/
structure IsUnnoticed (f : CodePoint → CodePoint) : Prop where
  isLetter : ∀ letter ∈ letters, ∀ c, isLetter letter (f c) = isLetter letter c
  isBlank : ∀ c, (f c).isBlank = c.isBlank
  decimalDigit? : ∀ c, (f c).decimalDigit? = c.decimalDigit?
  isDotless : ∀ c, f c = .scalar 'ı' ↔ c = .scalar 'ı'

namespace IsUnnoticed

variable {f : CodePoint → CodePoint} (hf : IsUnnoticed f) {word : List Char}

include hf

theorem word?_map (hword : word ⊆ letters) (t : Text) :
    word? word (t.map f) = (word? word t).map (Prod.map (List.map f) (List.map f)) := by
  induction word generalizing t with
  | nil => rfl
  | cons letter word ih =>
    rw [List.cons_subset] at hword
    cases t with
    | nil => rfl
    | cons c t =>
      simp only [List.map_cons, word?, hf.isLetter letter hword.1, ih hword.2]
      split
      · cases word? word t <;> rfl
      · rfl

theorem blanks?_map (t : Text) : blanks? (t.map f) = (blanks? t).map (List.map f) := by
  cases t with
  | nil => rfl
  | cons c t =>
    have hdrop : (List.map f (c :: t)).dropWhile CodePoint.isBlank =
        ((c :: t).dropWhile CodePoint.isBlank).map f := by
      rw [List.dropWhile_map]
      congr 2
      exact funext hf.isBlank
    simp only [List.map_cons, blanks?, hf.isBlank] at hdrop ⊢
    rw [hdrop]
    split <;> rfl

theorem day?_map (t : Text) : day? (t.map f) = (day? t).map (Prod.map id (List.map f)) := by
  cases t with
  | nil => rfl
  | cons a t =>
    cases ha : a.decimalDigit? with
    | none => simp [day?, hf.decimalDigit?, ha]
    | some m =>
      cases t with
      | nil => simp [day?, hf.decimalDigit?, ha]
      | cons b t => cases hb : b.decimalDigit? <;> simp [day?, hf.decimalDigit?, ha, hb]

theorem withoutEnding_map (t : Text) : withoutEnding (t.map f) = (withoutEnding t).map f := by
  have hread : (["st", "nd", "rd", "th"].findSome? fun ending => word? ending.toList (t.map f)) =
      (["st", "nd", "rd", "th"].findSome? fun ending => word? ending.toList t).map
        (Prod.map (List.map f) (List.map f)) := by
    rw [List.map_findSome?]
    refine findSome?_congr fun ending hending => ?_
    have hword := subset_letters_of_mem_words _ (mem_words_of_mem_endings ending hending)
    rw [hf.word?_map hword, Function.comp_apply]
  unfold withoutEnding
  rw [hread]
  cases ["st", "nd", "rd", "th"].findSome? fun ending => word? ending.toList t <;> rfl

theorem withoutOf_map (t : Text) : withoutOf (t.map f) = (withoutOf t).map f := by
  unfold withoutOf
  rw [hf.word?_map (subset_letters_of_mem_words _ mem_words_of)]
  cases word? ['o', 'f'] t with
  | none => rfl
  | some read =>
    simp only [Option.map_some, Prod.map_snd, hf.blanks?_map]
    cases blanks? read.2 <;> rfl

theorem month?_map (t : Text) :
    month? (t.map f) = (month? t).map (Prod.map id (Prod.map (List.map f) (List.map f))) := by
  unfold month?
  rw [List.map_findSome?]
  refine findSome?_congr fun entry hentry => ?_
  have hword := subset_letters_of_mem_words _ (mem_words_of_mem_months entry hentry)
  simp only [hf.word?_map hword, Function.comp_apply, Option.map_map]
  rfl

theorem year?_map (t : Text) : year? (t.map f) = year? t := by
  unfold year?
  rw [hf.blanks?_map]
  cases blanks? t with
  | none => rfl
  | some rest =>
    have hdigits : CodePoint.decimalDigit? ∘ f = CodePoint.decimalDigit? := funext hf.decimalDigit?
    simp [← List.map_take, List.mapM_map, hdigits]

theorem contains_dotless_map (t : Text) :
    (t.map f).contains (.scalar 'ı') = t.contains (.scalar 'ı') := by
  rw [Bool.eq_iff_iff, List.contains_iff_mem, List.contains_iff_mem, List.mem_map]
  constructor
  · rintro ⟨c, hc, hdotless⟩
    exact (hf.isDotless c).1 hdotless ▸ hc
  · intro hmem
    exact ⟨_, hmem, (hf.isDotless _).2 rfl⟩

theorem atStart?_map (t : Text) : atStart? (t.map f) = atStart? t := by
  unfold atStart?
  rw [hf.day?_map]
  cases day? t with
  | none => rfl
  | some read =>
    simp only [Option.map_some, Option.bind_eq_bind, Option.bind_some, Prod.map_fst, Prod.map_snd,
      id_eq, hf.withoutEnding_map, hf.blanks?_map]
    cases blanks? (withoutEnding read.2) with
    | none => rfl
    | some rest =>
      simp only [Option.map_some, Option.bind_some, hf.withoutOf_map, hf.month?_map]
      cases month? (withoutOf rest) with
      | none => rfl
      | some read =>
        simp only [Option.map_some, Option.bind_some, Prod.map_fst, Prod.map_snd, id_eq,
          hf.year?_map, hf.contains_dotless_map]

theorem find?_map (t : Text) : find? (t.map f) = find? t := by
  induction t with
  | nil => rfl
  | cons c t ih => rw [List.map_cons, find?, ← List.map_cons, hf.atStart?_map, ih, find?]

end IsUnnoticed

/-! ### Small and capital letters -/

/-- Both cases of a letter are forms of it, and not the dotless one. -/
theorem mem_forms_of_mem_letters : ∀ letter ∈ letters, letter ∈ forms letter ∧
    letter.toUpper ∈ forms letter ∧ letter ≠ 'ı' ∧ letter.toUpper ≠ 'ı' := by
  have hall : (letters.all fun letter => decide (letter ∈ forms letter ∧
      letter.toUpper ∈ forms letter ∧ letter ≠ 'ı' ∧ letter.toUpper ≠ 'ı')) = true := by
    decide +kernel
  simpa only [List.all_eq_true, decide_eq_true_eq] using hall

/-- The alphabet, by the numbers of its letters. -/
theorem toLower_capital : ∀ n < 26, Char.ofNat (97 + n) ∈ letters ∧
    Char.ofNat (65 + n) = (Char.ofNat (97 + n)).toUpper ∧
      (Char.ofNat (65 + n)).toLower = Char.ofNat (97 + n) := by
  decide +kernel

/-- A code point is a capital letter of ASCII, or making it small changes nothing. -/
theorem asciiLower_cases (c : CodePoint) : c.asciiLower = c ∨
    ∃ letter ∈ letters, c = .scalar letter.toUpper ∧ c.asciiLower = .scalar letter := by
  cases c with
  | surrogate => exact .inl rfl
  | scalar c =>
    by_cases hcapital : 65 ≤ c.toNat ∧ c.toNat ≤ 90
    · right
      have hc : Char.ofNat (65 + (c.toNat - 65)) = c := by
        rw [Nat.add_sub_cancel' hcapital.1, Char.ofNat_toNat]
      obtain ⟨hletter, hupper, hlower⟩ := toLower_capital (c.toNat - 65) (by omega)
      rw [hc] at hupper hlower
      exact ⟨_, hletter, congrArg _ hupper, congrArg _ hlower⟩
    · left
      have hsmall : c.toLower = c := dif_neg hcapital
      exact congrArg _ hsmall

theorem isLetter_eq_of_mem_forms {letter other a b : Char} (hletter : letter ∈ letters)
    (hother : other ∈ letters) (ha : a ∈ forms letter) (hb : b ∈ forms letter) :
    isLetter other (.scalar a) = isLetter other (.scalar b) := by
  have hforms {form : Char} (hform : form ∈ forms letter) :
      isLetter other (.scalar form) = true ↔ other = letter := by
    rw [isLetter_iff]
    constructor
    · rintro ⟨_, hmem, ⟨⟩⟩
      exact (of_mem_forms letter hletter form hform).2.2 other hother hmem
    · rintro rfl
      exact ⟨form, hform, rfl⟩
  rw [Bool.eq_iff_iff, hforms ha, hforms hb]

/-- What is the same for a letter and its capital is not changed by making letters small. -/
theorem asciiLower_congr {α : Type} {g : CodePoint → α}
    (hg : ∀ letter ∈ letters, g (.scalar letter) = g (.scalar letter.toUpper)) (c : CodePoint) :
    g c.asciiLower = g c := by
  rcases asciiLower_cases c with h | ⟨letter, hletter, hc, h⟩
  · rw [h]
  · rw [h, hc, hg letter hletter]

theorem isUnnoticed_asciiLower : IsUnnoticed CodePoint.asciiLower where
  isLetter other hother c := by
    refine asciiLower_congr (g := isLetter other) (fun letter hletter => ?_) c
    obtain ⟨hself, hupper, -⟩ := mem_forms_of_mem_letters letter hletter
    exact isLetter_eq_of_mem_forms hletter hother hself hupper
  isBlank c := by
    refine asciiLower_congr (g := CodePoint.isBlank) (fun letter hletter => ?_) c
    obtain ⟨hself, hupper, -⟩ := mem_forms_of_mem_letters letter hletter
    rw [(of_mem_forms letter hletter _ hself).1, (of_mem_forms letter hletter _ hupper).1]
  decimalDigit? c := by
    refine asciiLower_congr (g := CodePoint.decimalDigit?) (fun letter hletter => ?_) c
    obtain ⟨hself, hupper, -⟩ := mem_forms_of_mem_letters letter hletter
    rw [(of_mem_forms letter hletter _ hself).2.1, (of_mem_forms letter hletter _ hupper).2.1]
  isDotless c := by
    refine iff_of_eq (asciiLower_congr (g := (· = .scalar 'ı')) (fun letter hletter => ?_) c)
    obtain ⟨-, -, hself, hupper⟩ := mem_forms_of_mem_letters letter hletter
    simp [hself, hupper]

end DatePhrase

open DatePhrase

/-- Texts that differ only in the case of letters of ASCII denote the same date. -/
theorem resolveDate_eq_of_sameLetters {s t : Text}
    (h : s.map CodePoint.asciiLower = t.map CodePoint.asciiLower) (now : Moment) :
    (resolveDate (some s) now).value = (resolveDate (some t) now).value := by
  apply resolveDate_congr
  rw [← isUnnoticed_asciiLower.find?_map, h, isUnnoticed_asciiLower.find?_map]

end SchemaQuery
