import SchemaQuery.Proofs.Json.Decoded
import SchemaQuery.Proofs.Json.Grammar
import SchemaQuery.Proofs.Json.Pieces

/-!
# Integers that are too long

A text is refused for the length of an integer when the reader comes to one where a value may stand.
Before that, everything has to fit; what stands behind the integer does not matter, unless the
number goes on as a fraction or with an exponent.
-/

namespace SchemaQuery

open StandardJson

namespace JsonToken

/-! ### Integers in front of a text -/

/-- A number does not go on with the text. -/
structure EndsNumber (t : Text) : Prop where
  digit : ∀ c ∈ t.head?, c.digit? = none
  fraction : ∀ p u, t = p ++ u → IsFraction p → p = []
  exponent : ∀ p u, t = p ++ u → IsExponent p → p = []

/-- The text begins with an integer of so many digits, which is no part of a longer number. -/
inductive BeginsInteger (digits : Nat) : Text → Prop
  | integer (negative : Bool) {whole : List Char} {rest : Text} : IsWhole whole →
    whole.length = digits → EndsNumber rest →
    BeginsInteger digits (signText negative ++ (whole.map .scalar ++ rest))

theorem fraction?_eq_none_iff {t : Text} :
    fraction? t = none ↔ ∀ p u, t = p ++ u → IsFraction p → p = [] := by
  constructor
  · rintro hnone p u rfl hp
    cases hp with
    | none => rfl
    | @point cs hcs =>
      obtain ⟨c, cs, rfl⟩ := List.exists_cons_of_ne_nil hcs.ne_nil
      have hc := digit?_of_isDigit (hcs.isDigit c List.mem_cons_self)
      simp [fraction?, Text.spanDigits, hc] at hnone
  · intro h
    cases hfraction : fraction? t with
    | none => rfl
    | some found =>
      unfold fraction? at hfraction
      split at hfraction
      · rename_i t
        split at hfraction
        · cases hfraction
        · rename_i digits rest hne hspan
          obtain ⟨cs, hcs, rfl, rfl, -⟩ := Text.exists_of_spanDigits hspan
          have hdigits : IsDigits cs := ⟨by rintro rfl; exact hne rfl, hcs⟩
          have hnil := h (.scalar '.' :: cs.map .scalar) rest (by simp) (.point hdigits)
          cases hnil
      · cases hfraction

theorem exists_sign (t : Text) : ∃ sign : Text, sign ∈ [[], [.scalar '+'], [.scalar '-']] ∧
    t = sign ++ (Text.sign t).2 := by
  unfold Text.sign
  split
  · exact ⟨[.scalar '-'], by simp, rfl⟩
  · exact ⟨[.scalar '+'], by simp, rfl⟩
  · exact ⟨[], by simp, rfl⟩

theorem sign_append {sign : Text} (hsign : sign ∈ [[], [.scalar '+'], [.scalar '-']]) {c : Char}
    (hc : c.isDigit = true) (t : Text) :
    (Text.sign (sign ++ .scalar c :: t)).2 = .scalar c :: t := by
  simp only [List.mem_cons, List.not_mem_nil, or_false] at hsign
  rcases hsign with rfl | rfl | rfl
  · unfold Text.sign
    split
    · rename_i heq
      cases heq
      cases hc
    · rename_i heq
      cases heq
      cases hc
    · rfl
  · rfl
  · rfl

theorem exponent?_eq_none_iff {t : Text} :
    Text.exponent? t = none ↔ ∀ p u, t = p ++ u → IsExponent p → p = [] := by
  constructor
  · rintro hnone p u rfl hp
    cases hp with
    | none => rfl
    | @power letter sign cs hletter hsign hcs =>
      obtain ⟨c, cs, rfl⟩ := List.exists_cons_of_ne_nil hcs.ne_nil
      have hdigit := hcs.isDigit c List.mem_cons_self
      have hletter : letter = 'e' ∨ letter = 'E' := List.mem_pair.1 hletter
      have htext : .scalar letter :: (sign ++ (c :: cs).map .scalar) ++ u =
          .scalar letter :: (sign ++ .scalar c :: (cs.map .scalar ++ u)) := by simp
      rw [htext, Text.exponent?, if_pos hletter] at hnone
      simp only [sign_append hsign hdigit, Text.spanDigits, digit?_of_isDigit hdigit] at hnone
      cases hnone
  · intro h
    cases hexponent : Text.exponent? t with
    | none => rfl
    | some found =>
      unfold Text.exponent? at hexponent
      split at hexponent
      · rename_i c t
        split at hexponent
        · rename_i hletter
          obtain ⟨sign, hsign, ht⟩ := exists_sign t
          simp only at hexponent
          split at hexponent
          · cases hexponent
          · rename_i digits rest hne hspan
            obtain ⟨cs, hcs, hrest, rfl, -⟩ := Text.exists_of_spanDigits hspan
            have hdigits : IsDigits cs := ⟨by rintro rfl; exact hne rfl, hcs⟩
            have hnil := h (.scalar c :: (sign ++ cs.map .scalar)) rest
              (by rw [ht, hrest]; simp) (.power (by simpa using hletter) hsign hdigits)
            cases hnil
        · cases hexponent
      · cases hexponent

/-- Only an integer is too long: a number with a fraction or an exponent is a double. -/
theorem ofRest_eq_tooLong_iff {negative : Bool} {whole : List Nat} {rest : Text} {n : Nat} :
    ofRest negative whole rest = tooLong n ↔
      digitLimit < n ∧ whole.length = n ∧ fraction? rest = none ∧ Text.exponent? rest = none := by
  unfold ofRest
  cases hfraction : fraction? rest with
  | some found =>
    simp only [Option.isNone_some, Bool.false_and, Bool.false_eq_true, if_false]
    split <;> simp
  | none =>
    simp only [Option.map_none, Option.getD_none, Option.isNone_none, Bool.true_and]
    cases hexponent : Text.exponent? rest with
    | some found =>
      simp only [Option.isNone_some, Bool.false_eq_true, if_false]
      split <;> simp
    | none =>
      simp only [Option.isNone_none, if_true]
      split
      · simp only [tooLong.injEq, and_true]
        constructor
        · rintro rfl
          exact ⟨by assumption, rfl⟩
        · exact And.right
      · rename_i hlimit
        have hshort : ¬ (digitLimit < n ∧ whole.length = n) := by
          rintro ⟨hlong, rfl⟩
          exact hlimit hlong
        simp only [and_true, hshort]
        split <;> simp

/-- A number that is read as one is a numeral in front of what it does not go on with. -/
theorem exists_of_ofNumber {t : Text} (h : ofNumber t ≠ invalid) :
    ∃ (negative : Bool) (whole : List Char) (rest : Text), IsWhole whole ∧
      (∀ c ∈ rest.head?, c.digit? = none) ∧
      t = signText negative ++ (whole.map .scalar ++ rest) := by
  have hsign : ∃ negative, t = signText negative ++ Text.without "-" t := by
    unfold Text.without
    cases hafter : Text.after? "-" t with
    | none => exact ⟨false, rfl⟩
    | some rest => exact ⟨true, Text.eq_append_of_after? hafter⟩
  obtain ⟨negative, ht⟩ := hsign
  unfold ofNumber at h
  simp only at h
  split at h
  · exact absurd rfl h
  · exact absurd rfl h
  rename_i digits rest hne hzero hspan
  obtain ⟨whole, hdigits, hwithout, rfl, hrest⟩ := Text.exists_of_spanDigits hspan
  refine ⟨negative, whole, rest, ⟨?_, hdigits, ?_⟩, hrest, ?_⟩
  · rintro rfl
    exact hne rfl
  · cases whole with
    | nil => exact absurd rfl hne
    | cons c whole =>
      cases whole with
      | nil => exact Or.inl rfl
      | cons d whole =>
        right
        intro hhead
        cases hhead
        exact hzero _ _ rfl
  · rw [← hwithout]
    exact ht

theorem endsNumber_iff {t : Text} : EndsNumber t ↔
    (∀ c ∈ t.head?, c.digit? = none) ∧ fraction? t = none ∧ Text.exponent? t = none := by
  rw [fraction?_eq_none_iff, exponent?_eq_none_iff]
  exact ⟨fun h => ⟨h.digit, h.fraction, h.exponent⟩, fun ⟨hd, hf, he⟩ => ⟨hd, hf, he⟩⟩

/-- A run is an integer that is too long if it begins with one, whatever stands behind it. -/
theorem ofRun_eq_tooLong_iff {t : Text} {n : Nat} :
    ofRun t = tooLong n ↔ digitLimit < n ∧ BeginsInteger n t := by
  constructor
  · intro h
    have hnumber : ofNumber t = tooLong n := by
      unfold ofRun at h
      repeat' split at h
      all_goals
        first
        | cases h
        | exact h
    obtain ⟨negative, whole, rest, hwhole, hrest, rfl⟩ :=
      exists_of_ofNumber (t := t) (by rw [hnumber]; simp)
    rw [hwhole.ofNumber_eq negative hrest, ofRest_eq_tooLong_iff] at hnumber
    obtain ⟨hlimit, hlength, hfraction, hexponent⟩ := hnumber
    refine ⟨hlimit, .integer negative hwhole ?_ (endsNumber_iff.2 ⟨hrest, hfraction, hexponent⟩)⟩
    simpa [Text.digitValues] using hlength
  · rintro ⟨hlimit, @⟨negative, whole, rest, hwhole, hlength, hends⟩⟩
    obtain ⟨hrest, hfraction, hexponent⟩ := endsNumber_iff.1 hends
    rw [hwhole.ofRun_eq, hwhole.ofNumber_eq negative hrest, ofRest_eq_tooLong_iff]
    exact ⟨hlimit, by simpa [Text.digitValues] using hlength, hfraction, hexponent⟩

/-! ### Runs in longer texts -/

/-- What is made of characters of runs ends where a run ends. -/
theorem exists_of_append_eq {p x rest u : Text} (hp : ∀ c ∈ p, isRun c = true) (hu : EndsRun u)
    (h : rest ++ u = p ++ x) : ∃ y, rest = p ++ y ∧ x = y ++ u := by
  rcases List.append_eq_append_iff.1 h with ⟨more, rfl, rfl⟩ | ⟨y, rfl, rfl⟩
  · cases more with
    | nil => exact ⟨[], by simp, rfl⟩
    | cons c more =>
      have hrun := hp c (by simp)
      rw [hu c rfl] at hrun
      cases hrun
  · exact ⟨y, rfl, rfl⟩

theorem digit?_of_isRun {c : CodePoint} (h : isRun c = false) : c.digit? = none := by
  cases hdigit : c.digit? with
  | none => rfl
  | some d =>
    obtain ⟨e, rfl, he, -⟩ := Text.exists_of_digit? hdigit
    rw [isRun_of_isDigit he] at h
    cases h

theorem isRun_of_isFraction {t : Text} (h : IsFraction t) : ∀ c ∈ t, isRun c = true := by
  cases h with
  | none => simp
  | point hcs => exact List.forall_mem_cons.2 ⟨rfl, fun c => isRun_of_mem_digits hcs.isDigit⟩

theorem isRun_of_isExponent {t : Text} (h : IsExponent t) : ∀ c ∈ t, isRun c = true := by
  cases h with
  | none => simp
  | @power letter sign cs hletter hsign hcs =>
    have hletter : isRun (.scalar letter) = true := by
      rcases List.mem_pair.1 hletter with rfl | rfl <;> rfl
    have hsign : ∀ c ∈ sign, isRun c = true := by
      simp only [List.mem_cons, List.not_mem_nil, or_false] at hsign
      rcases hsign with rfl | rfl | rfl <;> decide
    rw [List.forall_mem_cons, List.forall_mem_append]
    exact ⟨hletter, hsign, fun c => isRun_of_mem_digits hcs.isDigit⟩

/-- Behind the end of a run, no number goes on. -/
theorem endsNumber_append_iff {t u : Text} (hu : EndsRun u) :
    EndsNumber (t ++ u) ↔ EndsNumber t := by
  constructor
  · intro h
    refine ⟨fun c hc => h.digit c ?_, fun p x hx hp => h.fraction p (x ++ u) ?_ hp,
      fun p x hx hp => h.exponent p (x ++ u) ?_ hp⟩
    · rw [List.head?_append, Option.mem_def.1 hc]
      rfl
    · rw [hx, List.append_assoc]
    · rw [hx, List.append_assoc]
  · intro h
    constructor
    · intro c hc
      cases t with
      | nil => exact digit?_of_isRun (hu c hc)
      | cons d t => exact h.digit c hc
    · intro p x hx hp
      obtain ⟨y, rfl, -⟩ := exists_of_append_eq (isRun_of_isFraction hp) hu hx
      exact h.fraction p y rfl hp
    · intro p x hx hp
      obtain ⟨y, rfl, -⟩ := exists_of_append_eq (isRun_of_isExponent hp) hu hx
      exact h.exponent p y rfl hp

theorem beginsInteger_append_iff {t u : Text} {n : Nat} (hu : EndsRun u) :
    BeginsInteger n (t ++ u) ↔ BeginsInteger n t := by
  constructor
  · intro h
    generalize htext : t ++ u = text at h
    obtain ⟨negative, hwhole, hlength, hends⟩ := h
    rename_i whole rest
    have hrun : ∀ c ∈ signText negative ++ whole.map .scalar, isRun c = true := by
      simpa using @IsWhole.isRun _ hwhole negative [] (by simp)
    rw [← List.append_assoc] at htext
    obtain ⟨y, rfl, rfl⟩ := exists_of_append_eq hrun hu htext
    rw [List.append_assoc]
    exact .integer negative hwhole hlength ((endsNumber_append_iff hu).1 hends)
  · rintro ⟨negative, hwhole, hlength, hends⟩
    rw [List.append_assoc, List.append_assoc]
    exact .integer negative hwhole hlength ((endsNumber_append_iff hu).2 hends)

theorem BeginsInteger.ne_nil {t : Text} {n : Nat} (h : BeginsInteger n t) : t ≠ [] := by
  obtain ⟨negative, hwhole, -, -⟩ := h
  simp [hwhole.ne_nil]

/-- An integer that is too long is the first token of what it stands in front of. -/
theorem BeginsInteger.exists_ofText {t : Text} {n : Nat} (h : BeginsInteger n t)
    (hlimit : digitLimit < n) : ∃ after, ofText t = tooLong n :: after := by
  have hends : EndsRun (t.dropWhile isRun) := fun _ => Text.eq_false_of_mem_head?_dropWhile
  have hsplit := @List.takeWhile_append_dropWhile _ isRun t
  rw [← hsplit, beginsInteger_append_iff hends] at h
  refine ⟨ofText (t.dropWhile isRun), ?_⟩
  rw [← hsplit, ofText, scan_run h.ne_nil (fun _ => List.mem_takeWhile_imp) hends, hsplit,
    ofRun_eq_tooLong_iff.2 ⟨hlimit, h⟩]
  rfl

/-- What stands in front of a token is a text of its own. -/
theorem Cuts.exists_lead {t : Text} {before after : List JsonToken} {n : Nat}
    (h : Cuts t (before ++ tooLong n :: after)) :
    ∃ lead rest, t = lead ++ rest ∧ ofText lead = before ∧ BeginsInteger n rest := by
  generalize htokens : before ++ tooLong n :: after = tokens at h
  induction h generalizing before with
  | nil => simp at htokens
  | @space c t tokens hc _ ih =>
    obtain ⟨lead, rest, rfl, hlead, hrest⟩ := ih htokens
    refine ⟨c :: lead, rest, rfl, ?_, hrest⟩
    rw [← hlead]
    exact scan_space hc lead
  | @run s t tokens hne hs ht _ ih =>
    cases before with
    | nil =>
      obtain ⟨htoken, rfl⟩ := List.cons.inj htokens
      have hinteger := (ofRun_eq_tooLong_iff.1 htoken.symm).2
      exact ⟨[], s ++ t, rfl, rfl, (beginsInteger_append_iff ht).2 hinteger⟩
    | cons token before =>
      obtain ⟨rfl, hrow⟩ := List.cons.inj htokens
      obtain ⟨lead, rest, rfl, hlead, hrest⟩ := ih hrow
      refine ⟨s ++ lead, rest, (List.append_assoc _ _ _).symm, ?_, hrest⟩
      rw [← hlead]
      exact scan_run hne hs (endsRun_of_append ht)
  | @piece s t token tokens htoken hpiece _ ih =>
    cases before with
    | nil => exact absurd (List.cons.inj htokens).1.symm (htoken n)
    | cons first before =>
      obtain ⟨rfl, hrow⟩ := List.cons.inj htokens
      obtain ⟨lead, rest, rfl, hlead, hrest⟩ := ih hrow
      refine ⟨s ++ lead, rest, (List.append_assoc _ _ _).symm, ?_, hrest⟩
      rw [← hlead]
      exact hpiece lead
  | stop =>
    have hmem : tooLong n ∈ before ++ tooLong n :: after := by simp
    simp [htokens] at hmem

end JsonToken

/-! ### Where the reader comes to an integer -/

namespace Json

open JsonToken

/-- The reader comes to an integer where a value may begin. -/
def ReachesInteger (t : Text) (digits : Nat) : Prop :=
  ∃ lead rest state stack, t = lead ++ rest ∧ readFrom (.value []) lead = .ok state ∧
    AwaitsValue state stack ∧ BeginsInteger digits rest

/-- A text is refused for the length of an integer just when the reader comes to the integer. -/
theorem read_eq_tooLong_iff {t : Text} {n : Nat} :
    read t = .error (.tooLong n) ↔ digitLimit < n ∧ ReachesInteger t n := by
  constructor
  · intro h
    refine ⟨digitLimit_lt_of_read h, ?_⟩
    rw [read_eq_tooLong_iff_readFrom, readFrom, foldlM_readToken_eq_tooLong_iff] at h
    obtain ⟨before, after, state, stack, htokens, hbefore, hstate⟩ := h
    have hcuts := cuts_ofText t
    rw [htokens] at hcuts
    obtain ⟨lead, rest, rfl, rfl, hrest⟩ := hcuts.exists_lead
    exact ⟨lead, rest, state, stack, rfl, hbefore, hstate, hrest⟩
  · rintro ⟨hlimit, lead, rest, state, stack, rfl, hlead, hstate, hrest⟩
    obtain ⟨after, hafter⟩ := hrest.exists_ofText hlimit
    rw [read_eq_tooLong_iff_readFrom, readFrom, foldlM_readToken_eq_tooLong_iff,
      ofText_append hlead hstate, hafter]
    exact ⟨ofText lead, after, state, stack, rfl, hlead, hstate⟩

end Json

end SchemaQuery
