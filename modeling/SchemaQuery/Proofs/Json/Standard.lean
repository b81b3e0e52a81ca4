import SchemaQuery.Json.Writer
import SchemaQuery.Proofs.Json.Grammar
import SchemaQuery.Proofs.Json.RoundTrip
import SchemaQuery.Proofs.Json.Scalar

/-!
# Documents written as standard JSON

A document is written as a text of the grammar, in whatever layout, exactly when none of its numbers
is a double that is no decimal: those have names, which the grammar does not know.
-/

namespace SchemaQuery

open StandardJson

namespace Json

/-- Every double in the document is a decimal. -/
inductive IsFinite : Json → Prop
  | null : IsFinite null
  | bool (b : Bool) : IsFinite (bool b)
  | int (n : Int) : IsFinite (int n)
  | float (negative : Bool) (m : Magnitude) : IsFinite (float (.finite negative m))
  | string (t : Text) : IsFinite (string t)
  | array {items : List Json} : (∀ v ∈ items, IsFinite v) → IsFinite (array items)
  | object {entries : Entries Json} : (∀ e ∈ entries, IsFinite e.2) → IsFinite (object entries)

theorem isFinite_array_iff {items : List Json} : (array items).IsFinite ↔ ∀ v ∈ items, v.IsFinite :=
  ⟨fun h => by cases h; assumption, .array⟩

theorem isFinite_object_iff {entries : Entries Json} :
    (object entries).IsFinite ↔ ∀ e ∈ entries, e.2.IsFinite :=
  ⟨fun h => by cases h; assumption, .object⟩

theorem IsFinite.record {writes : List (Text × Json)} (h : ∀ e ∈ writes, e.2.IsFinite) :
    (record writes).IsFinite :=
  .object fun e he => h e (Entries.mem_of_mem_ofList he)

end Json

/-! ### Numbers -/

namespace StandardJson

theorem isNumber_ofInt (n : Int) : IsNumber (Text.ofInt n) := by
  rw [ofInt_eq]
  exact .numeral (decide (n < 0)) (isWhole_toDigits _) .none .none

theorem isFraction_fraction {n : Numeral} (h : n.IsDouble) : IsFraction n.fraction := by
  unfold Numeral.fraction
  split
  · exact .none
  · rename_i hne
    exact .point ⟨hne, h.isDigit⟩

theorem isExponent_power (n : Numeral) : IsExponent n.power := by
  unfold Numeral.power
  split
  · exact .none
  · rename_i e _
    have hdigits : IsDigits (Text.paddedDigits 2 e.natAbs) :=
      ⟨by simp [Text.paddedDigits, Nat.toDigits_ne_nil], fun _ => Text.isDigit_of_mem_paddedDigits⟩
    rw [Text.padded_eq]
    split
    · exact @IsExponent.power 'e' [.scalar '-'] _ (by simp) (by simp) hdigits
    · exact @IsExponent.power 'e' [.scalar '+'] _ (by simp) (by simp) hdigits

theorem isNumber_finite (negative : Bool) (m : Magnitude) (spelling : SpecialSpelling) :
    IsNumber ((Binary64.finite negative m).write spelling) := by
  obtain ⟨n, hn, hwrite, -⟩ := m.shortest.exists_numeral
  rw [Binary64.write, hwrite]
  exact .numeral negative hn.isWhole (isFraction_fraction hn) (isExponent_power n)

/-! ### Strings -/

theorem isCharacter_hexadecimal {n : Nat} (h : n < 0x10000) :
    IsCharacter ("\\u" ++ Text.hexadecimal 4 n) := by
  have hdigit {d : Nat} (hd : d < 16) :
      (CodePoint.scalar d.digitChar).hexDigit?.isSome = true := by
    rw [JsonToken.hexDigit?_digitChar d hd]
    rfl
  rw [JsonToken.hexadecimal_eq h]
  refine .unit rfl ?_
  simp [hdigit (show n / 4096 < 16 by omega), hdigit (Nat.mod_lt _ (show 0 < 16 by decide))]

theorem value_lt (c : CodePoint) : c.value < 0x110000 := by
  cases c with
  | scalar c =>
    have := CodePoint.toNat_bounds c
    simp only [CodePoint.value]
    omega
  | surrogate unit =>
    simp only [CodePoint.value]
    omega

theorem exists_characters (escaping : Escaping) (c : CodePoint) :
    ∃ characters : List Text, (∀ t ∈ characters, IsCharacter t) ∧
      characters.flatten = Json.writePoint escaping c := by
  have hone {t : Text} (ht : IsCharacter t) :
      ∃ characters : List Text, (∀ t ∈ characters, IsCharacter t) ∧ characters.flatten = t :=
    ⟨[t], by simpa using ht, by simp⟩
  unfold Json.writePoint
  split
  · exact hone (.escape (c := '"') (by simp))
  · exact hone (.escape (c := '\\') (by simp))
  · exact hone (.escape (c := 'n') (by simp))
  · exact hone (.escape (c := 'r') (by simp))
  · exact hone (.escape (c := 't') (by simp))
  · exact hone (.escape (c := 'b') (by simp))
  · exact hone (.escape (c := 'f') (by simp))
  · rename_i hquote hbackslash _ _ _ _ _
    split
    · have hvalue := value_lt c
      unfold Json.escapedUnits
      split
      · rename_i hsmall
        exact hone (isCharacter_hexadecimal hsmall)
      · have hhigh := isCharacter_hexadecimal
          (show 0xD800 + (c.value - 0x10000) / 1024 < 0x10000 by omega)
        have hlow := isCharacter_hexadecimal
          (show 0xDC00 + (c.value - 0x10000) % 1024 < 0x10000 by omega)
        exact ⟨[_, _], by simpa using ⟨hhigh, hlow⟩, by simp⟩
    · rename_i hplain
      have hcontrol : 0x20 ≤ c.value := Nat.le_of_not_lt fun hlt => hplain (Or.inl hlt)
      exact hone (.plain hcontrol (fun hc => hquote hc) fun hc => hbackslash hc)

theorem isString_writeString (escaping : Escaping) (t : Text) :
    IsString (Json.writeString escaping t) := by
  have hcharacters : ∃ characters : List Text, (∀ c ∈ characters, IsCharacter c) ∧
      characters.flatten = t.flatMap (Json.writePoint escaping) := by
    induction t with
    | nil => exact ⟨[], by simp, rfl⟩
    | cons c t ih =>
      obtain ⟨first, hfirst, hwritten⟩ := exists_characters escaping c
      obtain ⟨others, hothers, hrest⟩ := ih
      refine ⟨first ++ others, List.forall_mem_append.2 ⟨hfirst, hothers⟩, ?_⟩
      rw [List.flatten_append, hwritten, hrest, List.flatMap_cons]
  obtain ⟨characters, hall, hflatten⟩ := hcharacters
  unfold Json.writeString
  rw [← hflatten]
  exact .quoted hall

/-! ### Lists -/

theorem isSpaces_lineBreak (layout : Layout) (level : Nat) : IsSpaces (layout.lineBreak level) :=
  fun _ => Json.isSpace_of_mem_lineBreak

theorem exists_separator (layout : Layout) (level : Nat) :
    ∃ spaces, IsSpaces spaces ∧ layout.separator level = .scalar ',' :: spaces := by
  cases layout with
  | oneLine => exact ⟨[.scalar ' '], by simp [IsSpaces, JsonToken.isSpace], rfl⟩
  | indented width => exact ⟨_, isSpaces_lineBreak (.indented width) level, rfl⟩

theorem IsSpaces.append {s t : Text} (hs : IsSpaces s) (ht : IsSpaces t) : IsSpaces (s ++ t) :=
  List.forall_mem_append.2 ⟨hs, ht⟩

theorem isSpaces_nil : IsSpaces [] := by simp [IsSpaces]

/-- Space can be given to the parts of a row that stand beside it. -/
theorem exists_items {P : Text → Prop}
    (hspaced : ∀ {before t after : Text}, IsSpaces before → P t → IsSpaces after →
      P (before ++ (t ++ after)))
    {before spaces after : Text} (hbefore : IsSpaces before) (hspaces : IsSpaces spaces)
    (hafter : IsSpaces after) {parts : List Text} (hne : parts ≠ []) (h : ∀ t ∈ parts, P t) :
    ∃ items, items ≠ [] ∧ (∀ t ∈ items, P t) ∧
      before ++ (Text.join (.scalar ',' :: spaces) parts ++ after) =
        Text.join [.scalar ','] items := by
  induction parts generalizing before with
  | nil => exact absurd rfl hne
  | cons t parts ih =>
    have ht := h t List.mem_cons_self
    cases parts with
    | nil =>
      have hitem := hspaced hbefore ht hafter
      exact ⟨[_], List.cons_ne_nil _ _, by simpa using hitem, by simp [Text.join]⟩
    | cons next parts =>
      -- The space behind a comma goes to the part that follows it.
      obtain ⟨items, hitems, hall, hjoin⟩ := ih hspaces (List.cons_ne_nil next parts)
        fun u hu => h u (List.mem_cons_of_mem _ hu)
      have hitem := hspaced hbefore ht isSpaces_nil
      refine ⟨_ :: items, List.cons_ne_nil _ _, List.forall_mem_cons.2 ⟨hitem, hall⟩, ?_⟩
      obtain ⟨first, others, rfl⟩ := List.exists_cons_of_ne_nil hitems
      unfold Text.join at hjoin ⊢
      rw [List.intercalate_cons_cons, List.intercalate_cons_cons, ← hjoin]
      simp

def IsMember (t : Text) : Prop :=
  ∃ key value, IsKey key ∧ IsText value ∧ t = key ++ .scalar ':' :: value

theorem IsMember.spaced {before t after : Text} (hbefore : IsSpaces before) (h : IsMember t)
    (hafter : IsSpaces after) : IsMember (before ++ (t ++ after)) := by
  obtain ⟨_, value, ⟨hfront, hname, hback⟩, hvalue, rfl⟩ := h
  exact ⟨_, _, .spaced (hbefore.append hfront) hname hback,
    .spaced isSpaces_nil hvalue hafter, by simp⟩

theorem exists_members {parts : List Text} (h : ∀ t ∈ parts, IsMember t) :
    ∃ members, memberTexts members = parts ∧ (∀ m ∈ members, IsKey m.1) ∧
      ∀ m ∈ members, IsText m.2 := by
  induction parts with
  | nil => exact ⟨[], rfl, by simp, by simp⟩
  | cons t parts ih =>
    obtain ⟨⟨key, value, hkey, hvalue, rfl⟩, hparts⟩ := List.forall_mem_cons.1 h
    obtain ⟨members, rfl, hkeys, hvalues⟩ := ih hparts
    exact ⟨(key, value) :: members, rfl, List.forall_mem_cons.2 ⟨hkey, hkeys⟩,
      List.forall_mem_cons.2 ⟨hvalue, hvalues⟩⟩

variable {escaping : Escaping} {layout : Layout}

theorem isText_writeAt_array {items : List Json} (hne : items ≠ []) (level : Nat)
    (h : ∀ v ∈ items, ∀ level, IsText (v.writeAt escaping layout level)) :
    IsText (Json.writeAt escaping layout level (.array items)) := by
  obtain ⟨spaces, hspaces, hseparator⟩ := exists_separator layout (level + 1)
  have hparts : ∀ t ∈ items.map (Json.writeAt escaping layout (level + 1)), IsText t := by
    intro t ht
    obtain ⟨v, hv, rfl⟩ := List.mem_map.1 ht
    exact h v hv _
  obtain ⟨texts, htexts, hall, hjoin⟩ := exists_items .spaced
    (isSpaces_lineBreak layout (level + 1)) hspaces (isSpaces_lineBreak layout level)
    (mt List.map_eq_nil_iff.1 hne) hparts
  rw [Json.writeAt, Json.writeItems_eq_map, hseparator]
  · have htext := IsText.array htexts hall
    rw [← hjoin] at htext
    simpa using htext
  · exact hne

theorem isText_writeAt_object {entries : Entries Json} (hne : entries ≠ []) (level : Nat)
    (h : ∀ e ∈ entries, ∀ level, IsText (e.2.writeAt escaping layout level)) :
    IsText (Json.writeAt escaping layout level (.object entries)) := by
  obtain ⟨spaces, hspaces, hseparator⟩ := exists_separator layout (level + 1)
  have hcolon : IsSpaces [.scalar ' '] := by simp [IsSpaces, JsonToken.isSpace]
  have hparts : ∀ t ∈ entries.map (fun e => Json.writeString escaping e.1 ++
      (": " ++ Json.writeAt escaping layout (level + 1) e.2)), IsMember t := by
    intro t ht
    obtain ⟨e, he, rfl⟩ := List.mem_map.1 ht
    exact ⟨_, _, .spaced isSpaces_nil (isString_writeString escaping e.1) isSpaces_nil,
      .spaced hcolon (h e he (level + 1)) isSpaces_nil, by simp [Text.ofString]⟩
  obtain ⟨texts, htexts, hall, hjoin⟩ := exists_items IsMember.spaced
    (isSpaces_lineBreak layout (level + 1)) hspaces (isSpaces_lineBreak layout level)
    (mt List.map_eq_nil_iff.1 hne) hparts
  obtain ⟨members, rfl, hkeys, hvalues⟩ := exists_members hall
  rw [Json.writeAt, Json.writeEntries_eq_map, hseparator]
  · have htext := IsText.object (mt List.map_eq_nil_iff.2 htexts) hkeys hvalues
    rw [← hjoin] at htext
    simpa using htext
  · exact hne

theorem isText_writeAt {v : Json} (h : v.IsFinite) (level : Nat) :
    IsText (v.writeAt escaping layout level) := by
  induction h generalizing level with
  | null => exact .word (by simp [Json.writeAt])
  | bool b => cases b <;> exact .word (by simp [Json.writeAt])
  | int n => exact .number (isNumber_ofInt n)
  | float negative m => exact .number (isNumber_finite negative m Json.specials)
  | string t => exact .string (isString_writeString escaping t)
  | @array items _ ih =>
    by_cases hne : items = []
    · subst hne
      exact .emptyArray isSpaces_nil
    · exact isText_writeAt_array hne level ih
  | @object entries _ ih =>
    by_cases hne : entries = []
    · subst hne
      exact .emptyObject isSpaces_nil
    · exact isText_writeAt_object hne level ih

/-! ### Doubles that are no decimals -/

theorem isClosed_lineBreak (level : Nat) : IsClosed (layout.lineBreak level) :=
  (isSpaces_lineBreak layout level).isPlain.closed

theorem isClosed_separator (level : Nat) : IsClosed (layout.separator level) := by
  obtain ⟨spaces, hspaces, hseparator⟩ := exists_separator layout level
  rw [hseparator]
  exact .cons (by decide) hspaces.isPlain.closed

theorem isClosed_write (spelling : SpecialSpelling) (hnan : IsClosed spelling.nan)
    (hinfinity : IsClosed spelling.infinity) (x : Binary64) : IsClosed (x.write spelling) := by
  cases x with
  | nan => exact hnan
  | infinity negative =>
    cases negative with
    | true => exact .cons (by decide) hinfinity
    | false => exact hinfinity
  | finite negative m => exact (isNumber_finite negative m spelling).isPlain.closed

/-- What is written for the items of an array or the entries of an object, between brackets. -/
theorem isClosed_bracketed {first last : CodePoint} (hfirst : first ≠ .scalar '"')
    (hlast : last ≠ .scalar '"') (level : Nat) {parts : List Text}
    (h : ∀ part ∈ parts, IsClosed part) :
    IsClosed (first :: layout.lineBreak (level + 1) ++
      Text.join (layout.separator (level + 1)) parts ++ layout.lineBreak level ++ [last]) := by
  have hbracket : IsClosed [last] := isClosed_of_notMem (by simpa using hlast.symm)
  have hopen : IsClosed (first :: layout.lineBreak (level + 1)) :=
    .cons hfirst (isClosed_lineBreak (level + 1))
  have hseparator : IsClosed (layout.separator (level + 1)) := isClosed_separator (level + 1)
  have hjoin := hseparator.join h
  exact ((hopen.append hjoin).append (isClosed_lineBreak level)).append hbracket

theorem isClosed_colon : IsClosed ": " := isClosed_of_notMem (by decide)

theorem isClosed_entry (key : Text) {value : Text} (h : IsClosed value) :
    IsClosed (Json.writeString escaping key ++ (": " ++ value)) :=
  (isString_writeString escaping key).isClosed.append (isClosed_colon.append h)

theorem isClosed_writeAt (v : Json) (level : Nat) : IsClosed (v.writeAt escaping layout level) := by
  induction v using Json.induction_parts generalizing level with
  | null => exact (isText_writeAt .null level).isPlain.closed
  | bool b => exact (isText_writeAt (.bool b) level).isPlain.closed
  | int n => exact (isText_writeAt (.int n) level).isPlain.closed
  | float x =>
    exact isClosed_write Json.specials (isClosed_of_notMem (by decide))
      (isClosed_of_notMem (by decide)) x
  | string t => exact (isText_writeAt (.string t) level).isPlain.closed
  | array items ih =>
    cases items with
    | nil => exact (isText_writeAt (.array (by simp)) level).isPlain.closed
    | cons v items =>
      rw [Json.writeAt, Json.writeItems_eq_map]
      · apply isClosed_bracketed (by decide) (by decide)
        intro part hpart
        obtain ⟨w, hw, rfl⟩ := List.mem_map.1 hpart
        exact ih w hw (level + 1)
      · exact List.cons_ne_nil v items
  | object entries ih =>
    cases entries with
    | nil => exact (isText_writeAt (.object (by simp)) level).isPlain.closed
    | cons e entries =>
      rw [Json.writeAt, Json.writeEntries_eq_map]
      · apply isClosed_bracketed (by decide) (by decide)
        intro part hpart
        obtain ⟨d, hd, rfl⟩ := List.mem_map.1 hpart
        exact isClosed_entry d.1 (ih d hd (level + 1))
      · exact List.cons_ne_nil e entries

theorem isPlain_of_bracketed {first last : CodePoint} (hfirst : first ≠ .scalar '"')
    (hlast : last ≠ .scalar '"') (level : Nat) {parts : List Text}
    (hclosed : ∀ part ∈ parts, IsClosed part)
    (h : IsPlain (first :: layout.lineBreak (level + 1) ++
      Text.join (layout.separator (level + 1)) parts ++ layout.lineBreak level ++ [last])) :
    ∀ part ∈ parts, IsPlain part := by
  have hbracket : IsClosed [last] := isClosed_of_notMem (by simpa using hlast.symm)
  have hopen : IsClosed (first :: layout.lineBreak (level + 1)) :=
    .cons hfirst (isClosed_lineBreak (level + 1))
  have hseparator : IsClosed (layout.separator (level + 1)) := isClosed_separator (level + 1)
  have hjoin := hseparator.join hclosed
  have hinner := (h.of_append ((hopen.append hjoin).append (isClosed_lineBreak level)) hbracket).1
  have hrow := (hinner.of_append (hopen.append hjoin) (isClosed_lineBreak level)).1
  exact (hrow.of_append hopen hjoin).2.of_join hseparator hclosed

/-- A double that is no decimal is written by a name that is not plain. -/
theorem isFinite_of_isPlain_float {x : Binary64} (h : IsPlain (x.write Json.specials)) :
    (Json.float x).IsFinite := by
  cases x with
  | finite negative m => exact .float negative m
  | nan => exact absurd rfl (h.ordinary (.scalar 'N') (by decide)).2.1
  | infinity negative =>
    cases negative with
    | true => exact absurd rfl (h.ordinary (.scalar 'I') (by decide)).2.2
    | false => exact absurd rfl (h.ordinary (.scalar 'I') (by decide)).2.2

theorem isFinite_of_isPlain (v : Json) (level : Nat)
    (h : IsPlain (v.writeAt escaping layout level)) : v.IsFinite := by
  induction v using Json.induction_parts generalizing level with
  | null => exact .null
  | bool b => exact .bool b
  | int n => exact .int n
  | float x => exact isFinite_of_isPlain_float h
  | string t => exact .string t
  | array items ih =>
    cases items with
    | nil => exact .array (by simp)
    | cons v items =>
      rw [Json.writeAt, Json.writeItems_eq_map] at h
      · have hparts := isPlain_of_bracketed (by decide) (by decide) level
          (by simp [isClosed_writeAt]) h
        apply Json.IsFinite.array
        intro w hw
        exact ih w hw (level + 1) (hparts _ (List.mem_map_of_mem hw))
      · exact List.cons_ne_nil v items
  | object entries ih =>
    cases entries with
    | nil => exact .object (by simp)
    | cons e entries =>
      rw [Json.writeAt, Json.writeEntries_eq_map] at h
      · have hclosed : ∀ part ∈ (e :: entries).map (fun d => Json.writeString escaping d.1 ++
            (": " ++ Json.writeAt escaping layout (level + 1) d.2)), IsClosed part := by
          intro part hpart
          obtain ⟨d, -, rfl⟩ := List.mem_map.1 hpart
          exact isClosed_entry d.1 (isClosed_writeAt d.2 (level + 1))
        have hparts := isPlain_of_bracketed (by decide) (by decide) level hclosed h
        apply Json.IsFinite.object
        intro d hd
        have hentry := hparts _ (List.mem_map_of_mem hd)
        have hkey := (isString_writeString escaping d.1).isClosed
        have hvalue : IsClosed (d.2.writeAt escaping layout (level + 1)) :=
          isClosed_writeAt d.2 (level + 1)
        have hrest := (hentry.of_append hkey (isClosed_colon.append hvalue)).2
        exact ih d hd (level + 1) (hrest.of_append isClosed_colon hvalue).2
      · exact List.cons_ne_nil e entries

/-- A document is written as a text of the grammar when all its doubles are decimals, and never
otherwise. -/
theorem isText_writeAt_iff {v : Json} {level : Nat} :
    IsText (v.writeAt escaping layout level) ↔ v.IsFinite := by
  constructor
  · intro h
    exact isFinite_of_isPlain v level h.isPlain
  · intro h
    exact isText_writeAt h level

end StandardJson

end SchemaQuery
