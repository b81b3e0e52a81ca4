import SchemaQuery.Proofs.DatePhrase.Words
import SchemaQuery.Proofs.Text.Trim

/-!
# The grammar of date phrases

In front of its year a phrase has a day, perhaps an ordinal ending, blanks, perhaps the word `of`
with blanks behind it, and the name of a month. Each part has a reader that takes as much as it can
and never goes back. Nothing is lost by that: a text begins with the parts of a phrase in one way at
most, and it is the way in which the readers take it apart.
-/

namespace SchemaQuery

namespace DatePhrase

/-- One digit or two of any script, and the number that they denote. -/
inductive IsDay : Text → Nat → Prop
  | one {a : CodePoint} {m : Nat} : a.decimalDigit? = some m → IsDay [a] m
  | two {a b : CodePoint} {m n : Nat} : a.decimalDigit? = some m → b.decimalDigit? = some n →
    IsDay [a, b] (10 * m + n)

/-- An ordinal ending or nothing. -/
inductive IsEnding : Text → Prop
  | absent : IsEnding []
  | spelled {ending : String} {t : Text} : ending ∈ ["st", "nd", "rd", "th"] →
    Spells ending.toList t → IsEnding t

/-- One blank or more. -/
structure IsBlanks (t : Text) : Prop where
  ne_nil : t ≠ []
  isBlank : ∀ c ∈ t, c.isBlank = true

/-- The word `of` with blanks behind it, or nothing. -/
inductive IsParticle : Text → Prop
  | absent : IsParticle []
  | spelled {word blanks : Text} : Spells ['o', 'f'] word → IsBlanks blanks →
    IsParticle (word ++ blanks)

/-- The name of a month and its number. -/
inductive IsMonth : Text → Nat → Prop
  | spelled {name : String} {number : Nat} {t : Text} : (name, number) ∈ monthNames.zipIdx 1 →
    Spells name.toList t → IsMonth t number

/-- In front there are blanks and four digits, which denote a year. -/
inductive StatesYear : Text → Nat → Prop
  | stated {blanks digits : Text} {values : List Nat} (rest : Text) : IsBlanks blanks →
    digits.length = 4 → digits.mapM CodePoint.decimalDigit? = some values →
    StatesYear (blanks ++ (digits ++ rest)) (Text.number values)

variable {t rest digits ending blanks particle month : Text} {n : Nat} {c : CodePoint}

/-! ### The day -/

theorem day?_append (h : IsDay digits n) (hrest : ∀ c ∈ rest.head?, c.decimalDigit? = none) :
    day? (digits ++ rest) = some (n, rest) := by
  cases h with
  | one ha =>
    cases rest with
    | nil => simp [day?, ha]
    | cons c rest => simp [day?, ha, hrest c rfl]
  | two ha hb => simp [day?, ha, hb]

theorem exists_of_day? (h : day? t = some (n, rest)) :
    ∃ digits, IsDay digits n ∧ t = digits ++ rest := by
  cases t with
  | nil => cases h
  | cons a t =>
    cases ha : a.decimalDigit? with
    | none => simp [day?, ha] at h
    | some m =>
      cases t with
      | nil =>
        simp only [day?, ha, Option.some.injEq, Prod.mk.injEq] at h
        obtain ⟨rfl, rfl⟩ := h
        exact ⟨[a], .one ha, rfl⟩
      | cons b t =>
        simp only [day?, ha] at h
        cases hb : b.decimalDigit? with
        | none =>
          simp only [hb, Option.some.injEq, Prod.mk.injEq] at h
          obtain ⟨rfl, rfl⟩ := h
          exact ⟨[a], .one ha, rfl⟩
        | some k =>
          simp only [hb, Option.some.injEq, Prod.mk.injEq] at h
          obtain ⟨rfl, rfl⟩ := h
          exact ⟨[a, b], .two ha hb, rfl⟩

/-! ### The ending -/

theorem mem_words_of_mem_endings : ∀ ending ∈ ["st", "nd", "rd", "th"],
    ending.toList ∈ words := by
  decide +kernel

theorem withoutEnding_append (h : IsEnding ending) (hrest : ∀ c ∈ rest.head?, c.isBlank = true) :
    withoutEnding (ending ++ rest) = rest := by
  cases h with
  | absent =>
    have hnone :
        (["st", "nd", "rd", "th"].findSome? fun ending => word? ending.toList rest) = none :=
      List.findSome?_eq_none_iff.2 fun ending hmem =>
        word?_eq_none (mem_words_of_mem_endings ending hmem) hrest
    rw [List.nil_append, withoutEnding, hnone]
  | @spelled name _ hmem hspells =>
    cases hread :
      ["st", "nd", "rd", "th"].findSome? fun name => word? name.toList (ending ++ rest) with
    | none =>
      have hname := List.findSome?_eq_none_iff.1 hread name hmem
      rw [word?_append hspells] at hname
      cases hname
    | some read =>
      obtain ⟨other, hother, hword⟩ := List.exists_of_findSome?_eq_some hread
      have heq := hspells.eq_of_word? (mem_words_of_mem_endings name hmem)
        (mem_words_of_mem_endings other hother) (Option.isSome_of_eq_some hword)
      rw [heq, word?_append hspells] at hword
      cases hword
      rw [withoutEnding, hread]

theorem exists_withoutEnding (t : Text) :
    ∃ ending, IsEnding ending ∧ t = ending ++ withoutEnding t := by
  unfold withoutEnding
  split
  · rename_i ending rest hread
    obtain ⟨name, hmem, hword⟩ := List.exists_of_findSome?_eq_some hread
    obtain ⟨heq, hspells⟩ := of_word? hword
    exact ⟨ending, .spelled hmem hspells, heq⟩
  · exact ⟨[], .absent, rfl⟩

/-! ### Blanks -/

theorem IsBlanks.isBlank_head? (h : IsBlanks blanks) (rest : Text) :
    ∀ c ∈ (blanks ++ rest).head?, c.isBlank = true := by
  cases blanks with
  | nil => exact absurd rfl h.ne_nil
  | cons b blanks =>
    intro c hc
    cases hc
    exact h.isBlank b List.mem_cons_self

theorem blanks?_append (h : IsBlanks blanks) (hrest : ∀ c ∈ rest.head?, c.isBlank = false) :
    blanks? (blanks ++ rest) = some rest := by
  have hdrop : (blanks ++ rest).dropWhile CodePoint.isBlank = rest := by
    rw [List.dropWhile_append_of_pos h.isBlank, Text.dropWhile_eq_self_iff_head?.2 hrest]
  cases blanks with
  | nil => exact absurd rfl h.ne_nil
  | cons b blanks =>
    have hb := h.isBlank b List.mem_cons_self
    simp only [blanks?, List.cons_append, hb, if_true] at hdrop ⊢
    rw [hdrop]

theorem exists_of_blanks? (h : blanks? t = some rest) :
    ∃ blanks, IsBlanks blanks ∧ t = blanks ++ rest := by
  unfold blanks? at h
  split at h
  · cases h
  · rename_i b t
    split at h
    · rename_i hb
      cases h
      refine ⟨(b :: t).takeWhile CodePoint.isBlank, ⟨?_, fun c hc => List.mem_takeWhile_imp hc⟩,
        List.takeWhile_append_dropWhile.symm⟩
      rw [List.takeWhile_cons_of_pos hb]
      exact List.cons_ne_nil _ _
    · cases h

/-! ### The month and the word in front of it -/

theorem mem_words_of_mem_months : ∀ entry ∈ monthNames.zipIdx 1, entry.1.toList ∈ words := by
  decide +kernel

theorem number_of_mem_months : ∀ entry ∈ monthNames.zipIdx 1, ∀ other ∈ monthNames.zipIdx 1,
    other.1.toList = entry.1.toList → other.2 = entry.2 := by
  decide +kernel

theorem IsMonth.ne_nil (h : IsMonth month n) : month ≠ [] := by
  cases h with
  | spelled hmem hspells => exact hspells.ne_nil (mem_words_of_mem_months _ hmem)

theorem IsMonth.isBlank_eq_false (h : IsMonth month n) (hc : c ∈ month) : c.isBlank = false := by
  cases h with
  | spelled hmem hspells => exact hspells.isBlank_eq_false (mem_words_of_mem_months _ hmem) hc

theorem IsMonth.decimalDigit?_eq_none (h : IsMonth month n) (hc : c ∈ month) :
    c.decimalDigit? = none := by
  cases h with
  | spelled hmem hspells => exact hspells.decimalDigit?_eq_none (mem_words_of_mem_months _ hmem) hc

theorem IsMonth.isBlank_head? (h : IsMonth month n) (rest : Text) :
    ∀ c ∈ (month ++ rest).head?, c.isBlank = false := by
  intro c hc
  rw [List.head?_append_of_ne_nil _ h.ne_nil] at hc
  exact h.isBlank_eq_false (List.mem_of_mem_head? hc)

theorem month?_append (h : IsMonth month n) (rest : Text) :
    month? (month ++ rest) = some (n, month, rest) := by
  cases h with
  | @spelled name _ _ hmem hspells =>
    cases hread : month? (month ++ rest) with
    | none =>
      have hname := List.findSome?_eq_none_iff.1 hread (name, n) hmem
      simp only [word?_append hspells, Option.map_some, reduceCtorEq] at hname
    | some read =>
      obtain ⟨other, hother, hentry⟩ := List.exists_of_findSome?_eq_some hread
      obtain ⟨_, hword, heq⟩ := Option.map_eq_some_iff.1 hentry
      have hsame := hspells.eq_of_word? (mem_words_of_mem_months _ hmem)
        (mem_words_of_mem_months _ hother) (Option.isSome_of_eq_some hword)
      rw [hsame, word?_append hspells] at hword
      cases hword
      rw [← heq, number_of_mem_months _ hmem _ hother hsame]

theorem exists_of_month? (h : month? t = some (n, month, rest)) :
    IsMonth month n ∧ t = month ++ rest := by
  obtain ⟨⟨name, number⟩, hmem, hentry⟩ := List.exists_of_findSome?_eq_some h
  obtain ⟨⟨spelled, behind⟩, hword, hread⟩ := Option.map_eq_some_iff.1 hentry
  cases hread
  obtain ⟨heq, hspells⟩ := of_word? hword
  exact ⟨.spelled hmem hspells, heq⟩

theorem mem_words_of : ['o', 'f'] ∈ words := by decide +kernel

theorem IsParticle.isBlank_head? (h : IsParticle particle) (hmonth : IsMonth month n)
    (rest : Text) :
    ∀ c ∈ (particle ++ (month ++ rest)).head?, c.isBlank = false := by
  cases h with
  | absent => exact hmonth.isBlank_head? rest
  | spelled hspells _ =>
    intro c hc
    rw [List.append_assoc, List.head?_append_of_ne_nil _ (hspells.ne_nil mem_words_of)] at hc
    exact hspells.isBlank_eq_false mem_words_of (List.mem_of_mem_head? hc)

theorem withoutOf_append (h : IsParticle particle) (hmonth : IsMonth month n) (rest : Text) :
    withoutOf (particle ++ (month ++ rest)) = month ++ rest := by
  cases h with
  | absent =>
    -- No month has a name that begins with this word.
    cases hread : word? ['o', 'f'] (month ++ rest) with
    | none => rw [List.nil_append, withoutOf, hread]
    | some read =>
      cases hmonth with
      | @spelled name _ _ hmem hspells =>
        have heq := hspells.eq_of_word? (mem_words_of_mem_months _ hmem) mem_words_of
          (Option.isSome_of_eq_some hread)
        have hnone : ∀ entry ∈ monthNames.zipIdx 1, ['o', 'f'] ≠ entry.1.toList := by
          decide +kernel
        exact absurd heq (hnone _ hmem)
  | spelled hspells hblanks =>
    rw [List.append_assoc, withoutOf, word?_append hspells]
    simp only [blanks?_append hblanks (hmonth.isBlank_head? rest), Option.getD_some]

theorem exists_withoutOf (t : Text) :
    ∃ particle, IsParticle particle ∧ t = particle ++ withoutOf t := by
  unfold withoutOf
  split
  · rename_i word rest hread
    obtain ⟨rfl, hspells⟩ := of_word? hread
    cases hrest : blanks? rest with
    | none => exact ⟨[], .absent, rfl⟩
    | some behind =>
      obtain ⟨blanks, hblanks, rfl⟩ := exists_of_blanks? hrest
      exact ⟨word ++ blanks, .spelled hspells hblanks, by simp⟩
  · exact ⟨[], .absent, rfl⟩

/-! ### The year -/

theorem year?_eq_some_iff : year? t = some n ↔ StatesYear t n := by
  constructor
  · intro h
    obtain ⟨rest, hrest, hyear⟩ := Option.bind_eq_some_iff.1 h
    obtain ⟨blanks, hblanks, rfl⟩ := exists_of_blanks? hrest
    simp only at hyear
    split at hyear
    · rename_i hlength
      obtain ⟨values, hvalues, rfl⟩ := Option.map_eq_some_iff.1 hyear
      have hstated := StatesYear.stated (rest.drop 4) hblanks hlength hvalues
      rwa [List.take_append_drop] at hstated
    · cases hyear
  · intro h
    cases h with
    | @stated blanks digits values rest hblanks hlength hvalues =>
      have hhead : ∀ c ∈ (digits ++ rest).head?, c.isBlank = false := by
        intro c hc
        cases digits with
        | nil => cases hlength
        | cons d digits =>
          cases hc
          refine Bool.eq_false_iff.2 fun hblank => ?_
          rw [List.mapM_cons, CodePoint.decimalDigit?_of_isBlank hblank] at hvalues
          cases hvalues
      have htake : (digits ++ rest).take 4 = digits := List.take_left' hlength
      unfold year?
      rw [blanks?_append hblanks hhead]
      simp [htake, hlength, hvalues]

/-! ### All parts -/

/-- The parts of a phrase, the day and the month that they name, and what stands behind them. -/
structure Occurrence where
  digits : Text
  ending : Text
  blanks : Text
  particle : Text
  name : Text
  after : Text
  day : Nat
  month : Nat

namespace Occurrence

variable (o : Occurrence)

def behindDay : Text := o.ending ++ (o.blanks ++ (o.particle ++ o.name))

def text : Text := o.digits ++ (o.behindDay ++ o.after)

def phrase : DatePhrase := ⟨o.day, o.month, o.name.contains (.scalar 'ı'), year? o.after⟩

/-- A name in ASCII names its month. -/
theorem isDotless_phrase {o : Occurrence} (h : ∀ c ∈ o.name, c.value < 128) :
    o.phrase.isDotless = false := by
  have hname : CodePoint.scalar 'ı' ∉ o.name := fun hmem => absurd (h _ hmem) (by decide)
  simpa [phrase] using hname

end Occurrence

/-- A text begins with the parts of a phrase. -/
structure Begins (t : Text) (o : Occurrence) : Prop where
  eq : t = o.text
  isDay : IsDay o.digits o.day
  isEnding : IsEnding o.ending
  isBlanks : IsBlanks o.blanks
  isParticle : IsParticle o.particle
  isMonth : IsMonth o.name o.month

theorem IsEnding.decimalDigit?_eq_none (h : IsEnding ending) (hc : c ∈ ending) :
    c.decimalDigit? = none := by
  cases h with
  | absent => cases hc
  | spelled hmem hspells =>
    exact hspells.decimalDigit?_eq_none (mem_words_of_mem_endings _ hmem) hc

theorem IsBlanks.decimalDigit?_eq_none (h : IsBlanks blanks) (hc : c ∈ blanks) :
    c.decimalDigit? = none :=
  CodePoint.decimalDigit?_of_isBlank (h.isBlank c hc)

theorem IsParticle.decimalDigit?_eq_none (h : IsParticle particle) (hc : c ∈ particle) :
    c.decimalDigit? = none := by
  cases h with
  | absent => cases hc
  | spelled hspells hblanks =>
    rcases List.mem_append.1 hc with hword | hblank
    · exact hspells.decimalDigit?_eq_none mem_words_of hword
    · exact hblanks.decimalDigit?_eq_none hblank

namespace Begins

variable {o o' : Occurrence}

/-- Behind the day a phrase has no digits. -/
theorem decimalDigit?_eq_none (h : Begins t o) (hc : c ∈ o.behindDay) : c.decimalDigit? = none := by
  rcases List.mem_append.1 hc with hc | hc
  · exact h.isEnding.decimalDigit?_eq_none hc
  rcases List.mem_append.1 hc with hc | hc
  · exact h.isBlanks.decimalDigit?_eq_none hc
  rcases List.mem_append.1 hc with hc | hc
  · exact h.isParticle.decimalDigit?_eq_none hc
  · exact h.isMonth.decimalDigit?_eq_none hc

theorem behindDay_ne_nil (h : Begins t o) : o.behindDay ≠ [] := by
  simp [Occurrence.behindDay, h.isMonth.ne_nil]

theorem day?_eq (h : Begins t o) : day? t = some (o.day, o.behindDay ++ o.after) := by
  have hhead : ∀ c ∈ (o.behindDay ++ o.after).head?, c.decimalDigit? = none := by
    intro c hc
    rw [List.head?_append_of_ne_nil _ h.behindDay_ne_nil] at hc
    exact h.decimalDigit?_eq_none (List.mem_of_mem_head? hc)
  rw [h.eq, Occurrence.text, day?_append h.isDay hhead]

theorem withoutEnding_eq (h : Begins t o) :
    withoutEnding (o.behindDay ++ o.after) = o.blanks ++ (o.particle ++ (o.name ++ o.after)) := by
  simp only [Occurrence.behindDay, List.append_assoc]
  exact withoutEnding_append h.isEnding (h.isBlanks.isBlank_head? _)

theorem blanks?_eq (h : Begins t o) :
    blanks? (o.blanks ++ (o.particle ++ (o.name ++ o.after))) =
      some (o.particle ++ (o.name ++ o.after)) :=
  blanks?_append h.isBlanks (h.isParticle.isBlank_head? h.isMonth o.after)

theorem withoutOf_eq (h : Begins t o) :
    withoutOf (o.particle ++ (o.name ++ o.after)) = o.name ++ o.after :=
  withoutOf_append h.isParticle h.isMonth o.after

theorem month?_eq (h : Begins t o) :
    month? (o.name ++ o.after) = some (o.month, o.name, o.after) :=
  month?_append h.isMonth o.after

theorem atStart?_eq (h : Begins t o) : atStart? t = some o.phrase := by
  unfold atStart?
  simp only [h.day?_eq, h.withoutEnding_eq, h.blanks?_eq, h.withoutOf_eq, h.month?_eq,
    Option.bind_eq_bind, Option.bind_some, Option.pure_def, Occurrence.phrase]

/-- A text begins with the parts of a phrase in one way at most. -/
theorem unique (h : Begins t o) (h' : Begins t o') : o = o' := by
  obtain ⟨hday, hbehind⟩ := Prod.mk.inj (Option.some.inj (h.day?_eq.symm.trans h'.day?_eq))
  have hfrom := h.withoutEnding_eq.symm.trans ((congrArg withoutEnding hbehind).trans
    h'.withoutEnding_eq)
  have hparticles := Option.some.inj (h.blanks?_eq.symm.trans ((congrArg blanks? hfrom).trans
    h'.blanks?_eq))
  have hnames := h.withoutOf_eq.symm.trans ((congrArg withoutOf hparticles).trans h'.withoutOf_eq)
  have hread := Option.some.inj (h.month?_eq.symm.trans ((congrArg month? hnames).trans
    h'.month?_eq))
  simp only [Prod.mk.injEq] at hread
  obtain ⟨hmonth, hname, hafter⟩ := hread
  -- What is left behind each part is the same, so the part is.
  have hparticle : o.particle = o'.particle := by
    rwa [hnames, List.append_cancel_right_eq] at hparticles
  have hblanks : o.blanks = o'.blanks := by
    rwa [hparticles, List.append_cancel_right_eq] at hfrom
  have hending : o.ending = o'.ending := by
    simpa only [Occurrence.behindDay, hblanks, hparticle, hname, hafter,
      List.append_cancel_right_eq] using hbehind
  have hdigits : o.digits = o'.digits := by
    have htext := h.eq.symm.trans h'.eq
    rwa [Occurrence.text, Occurrence.text, hbehind, List.append_cancel_right_eq] at htext
  cases o
  cases o'
  simp only at hday hmonth hname hafter hparticle hblanks hending hdigits
  subst hday hmonth hname hafter hparticle hblanks hending hdigits
  rfl

end Begins

theorem exists_begins {p : DatePhrase} (h : atStart? t = some p) :
    ∃ o, Begins t o ∧ p = o.phrase := by
  obtain ⟨⟨day, behind⟩, hday, hbehind⟩ := Option.bind_eq_some_iff.1 h
  obtain ⟨digits, hdigits, rfl⟩ := exists_of_day? hday
  obtain ⟨fromParticle, hfrom, hphrase⟩ := Option.bind_eq_some_iff.1 hbehind
  obtain ⟨ending, hending, hsplit⟩ := exists_withoutEnding behind
  obtain ⟨blanks, hblanks, heq⟩ := exists_of_blanks? hfrom
  obtain ⟨⟨month, name, after⟩, hmonth, hyear⟩ := Option.bind_eq_some_iff.1 hphrase
  obtain ⟨particle, hparticle, hrest⟩ := exists_withoutOf fromParticle
  obtain ⟨hname, hafter⟩ := exists_of_month? hmonth
  cases hyear
  refine ⟨⟨digits, ending, blanks, particle, name, after, day, month⟩,
    ⟨?_, hdigits, hending, hblanks, hparticle, hname⟩, rfl⟩
  rw [hsplit, heq, hrest, hafter]
  simp [Occurrence.text, Occurrence.behindDay]

theorem atStart?_eq_none_iff : atStart? t = none ↔ ∀ o, ¬ Begins t o := by
  constructor
  · intro hnone o ho
    rw [ho.atStart?_eq] at hnone
    cases hnone
  · intro h
    rw [Option.eq_none_iff_forall_ne_some]
    intro p hp
    obtain ⟨o, ho, -⟩ := exists_begins hp
    exact h o ho

end DatePhrase

end SchemaQuery
