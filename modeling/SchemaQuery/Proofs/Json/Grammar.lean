import SchemaQuery.Proofs.Json.Numbers

/-!
# The grammar of standard JSON

A text of the grammar is a value with space around it. Whatever nests in it is such a text again:
the items of an array stand between commas, and in an object a string and a colon come before each
of them. Numbers are numerals and nothing else. So the doubles that are no decimals cannot be
spelled: no text of the grammar has the first letter of one of their names outside of its strings.
-/

namespace SchemaQuery.StandardJson

open JsonToken

/-- Space, tabs and line breaks. -/
def IsSpaces (t : Text) : Prop := ∀ c ∈ t, isSpace c = true

/-- One character of a string: itself, or an escape. -/
inductive IsCharacter : Text → Prop
  | plain {c : CodePoint} : 0x20 ≤ c.value → c ≠ .scalar '"' → c ≠ .scalar '\\' → IsCharacter [c]
  | escape {c : Char} : c ∈ ['"', '\\', '/', 'b', 'f', 'n', 'r', 't'] →
    IsCharacter [.scalar '\\', .scalar c]
  | unit {digits : Text} : digits.length = 4 → (∀ c ∈ digits, c.hexDigit?.isSome = true) →
    IsCharacter (.scalar '\\' :: .scalar 'u' :: digits)

/-- Characters between quotation marks. -/
inductive IsString : Text → Prop
  | quoted {characters : List Text} : (∀ c ∈ characters, IsCharacter c) →
    IsString (.scalar '"' :: (characters.flatten ++ [.scalar '"']))

/-- A row of decimal digits. -/
structure IsDigits (cs : List Char) : Prop where
  ne_nil : cs ≠ []
  isDigit : ∀ c ∈ cs, c.isDigit = true

/-- A decimal point and digits, or nothing. -/
inductive IsFraction : Text → Prop
  | none : IsFraction []
  | point {cs : List Char} : IsDigits cs → IsFraction (.scalar '.' :: cs.map .scalar)

/-- The letter of an exponent and digits, with a sign or without one, or nothing. -/
inductive IsExponent : Text → Prop
  | none : IsExponent []
  | power {letter : Char} {sign : Text} {cs : List Char} : letter ∈ ['e', 'E'] →
    sign ∈ [[], [.scalar '+'], [.scalar '-']] → IsDigits cs →
    IsExponent (.scalar letter :: (sign ++ cs.map .scalar))

/-- A numeral: whole digits without a zero in front, perhaps with a sign, a fraction and an
exponent. -/
inductive IsNumber : Text → Prop
  | numeral (negative : Bool) {whole : List Char} {fraction exponent : Text} : IsWhole whole →
    IsFraction fraction → IsExponent exponent →
    IsNumber (signText negative ++ (whole.map .scalar ++ (fraction ++ exponent)))

/-- The name of a member with space around it. -/
inductive IsKey : Text → Prop
  | spaced {before name after : Text} : IsSpaces before → IsString name → IsSpaces after →
    IsKey (before ++ (name ++ after))

def memberTexts (members : List (Text × Text)) : List Text :=
  members.map fun m => m.1 ++ .scalar ':' :: m.2

/-- A text of the grammar. -/
inductive IsText : Text → Prop
  | spaced {before t after : Text} : IsSpaces before → IsText t → IsSpaces after →
    IsText (before ++ (t ++ after))
  | word {t : Text} : t ∈ [Text.ofString "null", "true", "false"] → IsText t
  | number {t : Text} : IsNumber t → IsText t
  | string {t : Text} : IsString t → IsText t
  | emptyArray {spaces : Text} : IsSpaces spaces → IsText (.scalar '[' :: (spaces ++ [.scalar ']']))
  | array {items : List Text} : items ≠ [] → (∀ t ∈ items, IsText t) →
    IsText (.scalar '[' :: (Text.join [.scalar ','] items ++ [.scalar ']']))
  | emptyObject {spaces : Text} : IsSpaces spaces →
    IsText (.scalar '\x7b' :: (spaces ++ [.scalar '\x7d']))
  | object {members : List (Text × Text)} : members ≠ [] → (∀ m ∈ members, IsKey m.1) →
    (∀ m ∈ members, IsText m.2) →
    IsText (.scalar '\x7b' :: (Text.join [.scalar ','] (memberTexts members) ++ [.scalar '\x7d']))

/-! ### Outside of strings -/

/-- Where a code point stands. -/
inductive Place where
  | outside
  | inside
  /-- Behind a backslash in a string. -/
  | escaped

/-- The code points that stand outside of strings and are no quotation marks. -/
def bareFrom : Place → Text → Text
  | _, [] => []
  | .outside, c :: t =>
    if c = .scalar '"' then bareFrom .inside t else c :: bareFrom .outside t
  | .inside, c :: t =>
    if c = .scalar '"' then bareFrom .outside t
    else if c = .scalar '\\' then bareFrom .escaped t
    else bareFrom .inside t
  | .escaped, _ :: t => bareFrom .inside t

def bare (t : Text) : Text := bareFrom .outside t

/-- What stands behind the text is outside of its strings. -/
def IsClosed (t : Text) : Prop := ∀ rest, bare (t ++ rest) = bare t ++ bare rest

@[simp] theorem bare_nil : bare [] = [] := rfl

theorem bare_cons_of_ne {c : CodePoint} (h : c ≠ .scalar '"') (t : Text) :
    bare (c :: t) = c :: bare t :=
  if_neg h

theorem bare_append_of_notMem {t : Text} (h : .scalar '"' ∉ t) (rest : Text) :
    bare (t ++ rest) = t ++ bare rest := by
  induction t with
  | nil => rfl
  | cons c t ih =>
    simp only [List.mem_cons, not_or] at h
    rw [List.cons_append, bare_cons_of_ne (Ne.symm h.1), ih h.2, List.cons_append]

theorem bare_of_notMem {t : Text} (h : .scalar '"' ∉ t) : bare t = t := by
  simpa using bare_append_of_notMem h []

theorem isClosed_of_notMem {t : Text} (h : .scalar '"' ∉ t) : IsClosed t := by
  intro rest
  rw [bare_append_of_notMem h, bare_of_notMem h]

namespace IsClosed

variable {s t : Text}

theorem append (hs : IsClosed s) (ht : IsClosed t) : IsClosed (s ++ t) := by
  intro rest
  rw [List.append_assoc, hs, ht, hs t, List.append_assoc]

theorem cons {c : CodePoint} (h : c ≠ .scalar '"') (ht : IsClosed t) : IsClosed (c :: t) := by
  intro rest
  rw [List.cons_append, bare_cons_of_ne h, bare_cons_of_ne h, ht, List.cons_append]

theorem join {separator : Text} (hseparator : IsClosed separator) {parts : List Text}
    (h : ∀ part ∈ parts, IsClosed part) : IsClosed (Text.join separator parts) := by
  induction parts with
  | nil => exact fun _ => rfl
  | cons part parts ih =>
    have hpart := h part List.mem_cons_self
    have hparts := ih fun p hp => h p (List.mem_cons_of_mem _ hp)
    cases parts with
    | nil => simpa [Text.join] using hpart
    | cons next parts =>
      rw [Text.join, List.intercalate_cons_cons]
      exact (hpart.append hseparator).append hparts

end IsClosed

/-! ### Strings -/

theorem bareFrom_inside_append {t : Text} (h : ∀ c ∈ t, c ≠ .scalar '"' ∧ c ≠ .scalar '\\')
    (rest : Text) : bareFrom .inside (t ++ rest) = bareFrom .inside rest := by
  induction t with
  | nil => rfl
  | cons c t ih =>
    obtain ⟨hquote, hbackslash⟩ := h c List.mem_cons_self
    have hrest := ih fun d hd => h d (List.mem_cons_of_mem _ hd)
    simp only [List.cons_append, bareFrom, hquote, hbackslash, if_false, hrest]

theorem IsCharacter.bareFrom_append {t : Text} (h : IsCharacter t) (rest : Text) :
    bareFrom .inside (t ++ rest) = bareFrom .inside rest := by
  cases h with
  | plain _ hquote hbackslash =>
    exact bareFrom_inside_append (by simp [hquote, hbackslash]) rest
  | escape => rfl
  | @unit digits _ hdigits =>
    have hinside : ∀ c ∈ digits, c ≠ .scalar '"' ∧ c ≠ .scalar '\\' := by
      intro c hc
      have hdigit := hdigits c hc
      constructor
      · rintro rfl
        cases hdigit
      · rintro rfl
        cases hdigit
    exact bareFrom_inside_append hinside rest

theorem bareFrom_characters {characters : List Text} (h : ∀ c ∈ characters, IsCharacter c)
    (rest : Text) : bareFrom .inside (characters.flatten ++ rest) = bareFrom .inside rest := by
  induction characters with
  | nil => rfl
  | cons c characters ih =>
    rw [List.flatten_cons, List.append_assoc, (h c List.mem_cons_self).bareFrom_append]
    exact ih fun d hd => h d (List.mem_cons_of_mem _ hd)

theorem IsString.bare_append {t : Text} (h : IsString t) (rest : Text) :
    bare (t ++ rest) = bare rest := by
  obtain ⟨hcharacters⟩ := h
  have hclose : bareFrom .inside (.scalar '"' :: rest) = bare rest := rfl
  rw [← hclose, ← bareFrom_characters hcharacters, List.cons_append, List.append_assoc]
  rfl

theorem IsString.bare_eq {t : Text} (h : IsString t) : bare t = [] := by
  simpa using h.bare_append []

theorem IsString.isClosed {t : Text} (h : IsString t) : IsClosed t := by
  intro rest
  rw [h.bare_append, h.bare_eq, List.nil_append]

/-! ### Plain texts -/

/-- Neither a quotation mark, nor the first letter of a double that is no decimal. -/
def IsOrdinary (c : CodePoint) : Prop :=
  c ≠ .scalar '"' ∧ c ≠ .scalar 'N' ∧ c ≠ .scalar 'I'

instance (c : CodePoint) : Decidable (IsOrdinary c) := inferInstanceAs (Decidable (_ ∧ _))

/-- No name of a double that is no decimal stands outside of the strings of the text. -/
structure IsPlain (t : Text) : Prop where
  closed : IsClosed t
  ordinary : ∀ c ∈ bare t, IsOrdinary c

theorem isPlain_of_forall {t : Text} (h : ∀ c ∈ t, IsOrdinary c) : IsPlain t := by
  have hquote : .scalar '"' ∉ t := fun hmem => (h _ hmem).1 rfl
  refine ⟨isClosed_of_notMem hquote, ?_⟩
  rw [bare_of_notMem hquote]
  exact h

theorem IsString.isPlain {t : Text} (h : IsString t) : IsPlain t := by
  refine ⟨h.isClosed, ?_⟩
  rw [h.bare_eq]
  simp

namespace IsPlain

variable {s t : Text}

theorem append (hs : IsPlain s) (ht : IsPlain t) : IsPlain (s ++ t) := by
  refine ⟨hs.closed.append ht.closed, ?_⟩
  rw [hs.closed]
  exact List.forall_mem_append.2 ⟨hs.ordinary, ht.ordinary⟩

theorem cons {c : CodePoint} (hc : IsOrdinary c) (ht : IsPlain t) : IsPlain (c :: t) :=
  append (s := [c]) (isPlain_of_forall (by simpa using hc)) ht

theorem join {separator : Text} (hseparator : IsPlain separator) {parts : List Text}
    (h : ∀ part ∈ parts, IsPlain part) : IsPlain (Text.join separator parts) := by
  induction parts with
  | nil => exact isPlain_of_forall (by simp [Text.join])
  | cons part parts ih =>
    have hpart := h part List.mem_cons_self
    have hparts := ih fun p hp => h p (List.mem_cons_of_mem _ hp)
    cases parts with
    | nil => simpa [Text.join] using hpart
    | cons next parts =>
      rw [Text.join, List.intercalate_cons_cons]
      exact (hpart.append hseparator).append hparts

theorem of_append (h : IsPlain (s ++ t)) (hs : IsClosed s) (ht : IsClosed t) :
    IsPlain s ∧ IsPlain t := by
  have hordinary := h.ordinary
  rw [hs, List.forall_mem_append] at hordinary
  exact ⟨⟨hs, hordinary.1⟩, ⟨ht, hordinary.2⟩⟩

theorem of_join {separator : Text} (hseparator : IsClosed separator) {parts : List Text}
    (hclosed : ∀ part ∈ parts, IsClosed part) (h : IsPlain (Text.join separator parts)) :
    ∀ part ∈ parts, IsPlain part := by
  induction parts with
  | nil => simp
  | cons part parts ih =>
    obtain ⟨hpart, hparts⟩ := List.forall_mem_cons.1 hclosed
    cases parts with
    | nil => simpa [Text.join] using h
    | cons next parts =>
      rw [Text.join, List.intercalate_cons_cons] at h
      obtain ⟨hfront, hback⟩ := h.of_append (hpart.append hseparator) (.join hseparator hparts)
      exact List.forall_mem_cons.2 ⟨(hfront.of_append hpart hseparator).1, ih hparts hback⟩

end IsPlain

theorem IsSpaces.isPlain {t : Text} (h : IsSpaces t) : IsPlain t := by
  apply isPlain_of_forall
  intro c hc
  have hspace := h c hc
  refine ⟨?_, ?_, ?_⟩
  all_goals
    rintro rfl
    cases hspace

theorem isOrdinary_of_isDigit {c : Char} (h : c.isDigit = true) : IsOrdinary (.scalar c) := by
  refine ⟨?_, ?_, ?_⟩
  all_goals
    rintro ⟨⟩
    cases h

theorem isPlain_digits {cs : List Char} (h : ∀ c ∈ cs, c.isDigit = true) :
    IsPlain (cs.map .scalar) := by
  apply isPlain_of_forall
  intro c hc
  obtain ⟨d, hd, rfl⟩ := List.mem_map.1 hc
  exact isOrdinary_of_isDigit (h d hd)

theorem IsFraction.isPlain {t : Text} (h : IsFraction t) : IsPlain t := by
  cases h with
  | none => exact isPlain_of_forall (by simp)
  | point hdigits => exact .cons (by decide) (isPlain_digits hdigits.isDigit)

theorem IsExponent.isPlain {t : Text} (h : IsExponent t) : IsPlain t := by
  cases h with
  | none => exact isPlain_of_forall (by simp)
  | @power letter sign cs hletter hsign hdigits =>
    have hordinary : IsOrdinary (.scalar letter) := by
      rcases List.mem_pair.1 hletter with rfl | rfl <;> decide
    have hplain : IsPlain sign := by
      simp only [List.mem_cons, List.not_mem_nil, or_false] at hsign
      rcases hsign with rfl | rfl | rfl <;> exact isPlain_of_forall (by decide)
    exact .cons hordinary (hplain.append (isPlain_digits hdigits.isDigit))

theorem IsNumber.isPlain {t : Text} (h : IsNumber t) : IsPlain t := by
  obtain ⟨negative, hwhole, hfraction, hexponent⟩ := h
  have hsign : IsPlain (signText negative) := by
    apply isPlain_of_forall
    cases negative <;> decide
  exact hsign.append ((isPlain_digits hwhole.isDigit).append
    (hfraction.isPlain.append hexponent.isPlain))

theorem IsKey.isPlain {t : Text} (h : IsKey t) : IsPlain t := by
  obtain ⟨hbefore, hname, hafter⟩ := h
  exact hbefore.isPlain.append (hname.isPlain.append hafter.isPlain)

/-- No text of the grammar spells a double that is no decimal outside of its strings. -/
theorem IsText.isPlain {t : Text} (h : IsText t) : IsPlain t := by
  have hcomma : IsPlain [.scalar ','] := isPlain_of_forall (by decide)
  induction h with
  | spaced hbefore _ hafter ih => exact hbefore.isPlain.append (ih.append hafter.isPlain)
  | word hword =>
    simp only [List.mem_cons, List.not_mem_nil, or_false] at hword
    rcases hword with rfl | rfl | rfl <;> exact isPlain_of_forall (by decide)
  | number hnumber => exact hnumber.isPlain
  | string hstring => exact hstring.isPlain
  | emptyArray hspaces =>
    exact .cons (by decide) (hspaces.isPlain.append (isPlain_of_forall (by decide)))
  | array _ _ ih =>
    exact .cons (by decide) ((hcomma.join ih).append (isPlain_of_forall (by decide)))
  | emptyObject hspaces =>
    exact .cons (by decide) (hspaces.isPlain.append (isPlain_of_forall (by decide)))
  | @object members _ hkeys _ ih =>
    have hmembers : ∀ part ∈ memberTexts members, IsPlain part := by
      intro part hpart
      obtain ⟨m, hm, rfl⟩ := List.mem_map.1 hpart
      exact (hkeys m hm).isPlain.append (.cons (by decide) (ih m hm))
    exact .cons (by decide) ((hcomma.join hmembers).append (isPlain_of_forall (by decide)))

end SchemaQuery.StandardJson
