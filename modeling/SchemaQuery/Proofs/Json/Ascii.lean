import SchemaQuery.Proofs.Json.Decoded
import SchemaQuery.Proofs.Json.Standard
import SchemaQuery.Proofs.Text.Join

/-!
# What a writer emits

The text of a document has printable characters of ASCII, the line feeds of its layout, and what is
kept of the strings and keys of the document. So a document is written without surrogates if it
holds none, and in ASCII alone on one line if its strings are escaped. Such a text has one byte for
each character. Read back, the bytes are the document, as long as its strings can be told from their
escapes.
-/

namespace SchemaQuery

namespace CodePoint

/-- A printable character of ASCII, or the blank. -/
def IsAscii (c : CodePoint) : Prop := 0x20 ≤ c.value ∧ c.value < 0x7F

instance (c : CodePoint) : Decidable c.IsAscii := inferInstanceAs (Decidable (_ ∧ _))

theorem isAscii_of_isRun {c : CodePoint} (h : JsonToken.isRun c = true) : c.IsAscii := by
  cases c with
  | surrogate unit => cases h
  | scalar c =>
    simp only [JsonToken.isRun, is_scalar, Bool.or_eq_true, decide_eq_true_iff] at h
    obtain ((h | rfl) | rfl) | rfl := h
    · have hupper (h : c.isUpper = true) : 65 ≤ c.toNat ∧ c.toNat ≤ 90 := of_decide_eq_true h
      have hlower (h : c.isLower = true) : 97 ≤ c.toNat ∧ c.toNat ≤ 122 :=
        (Bool.and_eq_true_iff.1 h).imp of_decide_eq_true of_decide_eq_true
      have hdigit (h : c.isDigit = true) : 48 ≤ c.toNat ∧ c.toNat ≤ 57 :=
        (Bool.and_eq_true_iff.1 h).imp of_decide_eq_true of_decide_eq_true
      simp only [IsAscii, value]
      rcases Bool.or_eq_true_iff.1 h with hletter | h
      · rcases Bool.or_eq_true_iff.1 hletter with h | h
        · have hbounds := hupper h
          omega
        · have hbounds := hlower h
          omega
      · have hbounds := hdigit h
        omega
    · decide
    · decide
    · decide

theorem IsAscii.isScalar {c : CodePoint} (h : c.IsAscii) : c.isScalar = true := by
  cases c with
  | scalar c => rfl
  | surrogate unit =>
    have hlow := h.2
    simp only [value] at hlow
    omega

end CodePoint

namespace Text

open CodePoint

theorem exists_of_mem_toDigits {n : Nat} {c : Char} (h : c ∈ Nat.toDigits 16 n) :
    ∃ d < 16, c = Nat.digitChar d := by
  induction n using Nat.strongRecOn with
  | _ n ih =>
    rw [Nat.toDigits_eq_if (by decide)] at h
    split at h
    · rename_i hsmall
      exact ⟨n, hsmall, List.mem_singleton.1 h⟩
    · rcases List.mem_append.1 h with hfront | hlast
      · exact ih (n / 16) (by omega) hfront
      · exact ⟨n % 16, Nat.mod_lt n (by decide), List.mem_singleton.1 hlast⟩

theorem isAscii_hexadecimal (width n : Nat) : ∀ c ∈ hexadecimal width n, c.IsAscii := by
  have hdigit : ∀ d < 16, (CodePoint.scalar (Nat.digitChar d)).IsAscii := by decide
  unfold hexadecimal
  rw [List.forall_mem_append]
  constructor
  · intro c hc
    rw [List.eq_of_mem_replicate hc]
    decide
  · intro c hc
    obtain ⟨digit, hmem, rfl⟩ := List.mem_map.1 hc
    obtain ⟨d, hd, rfl⟩ := exists_of_mem_toDigits hmem
    exact hdigit d hd

theorem utf8?_of_isAscii {t : Text} (h : ∀ c ∈ t, c.IsAscii) :
    utf8? t = some (t.map fun c => .ofNat c.value) := by
  induction t with
  | nil => rfl
  | cons c t ih =>
    obtain ⟨hc, ht⟩ := List.forall_mem_cons.1 h
    cases c with
    | surrogate unit =>
      have hlow := hc.2
      simp only [value] at hlow
      omega
    | scalar c =>
      have hlow : c.toNat < 0x80 := Nat.lt_trans hc.2 (by decide)
      rw [utf8?, ih ht, CodePoint.utf8, if_pos hlow]
      rfl

theorem exists_bytes_of_isAscii {t : Text} (h : ∀ c ∈ t, c.IsAscii) :
    ∃ bytes, utf8? t = some bytes ∧ (∀ b ∈ bytes, b < 0x80) ∧
      ofUtf8? .refused bytes = some t := by
  have hbytes := utf8?_of_isAscii h
  refine ⟨_, hbytes, ?_, ofUtf8?_of_utf8? .refused hbytes⟩
  intro b hb
  obtain ⟨c, hc, rfl⟩ := List.mem_map.1 hb
  have hhigh : c.value < 0x7F := (h c hc).2
  rw [UInt8.lt_iff_toNat_lt, toNat_byte (by omega)]
  change c.value < 0x80
  omega

end Text

namespace Json

open CodePoint

variable {escaping : Escaping} {layout : Layout} {c : CodePoint} {t : Text}

theorem isAscii_escapedUnits (n : Nat) : ∀ c ∈ escapedUnits n, c.IsAscii := by
  have hunit (m : Nat) : ∀ c ∈ "\\u" ++ Text.hexadecimal 4 m, c.IsAscii :=
    List.forall_mem_append.2 ⟨by decide, Text.isAscii_hexadecimal 4 m⟩
  unfold escapedUnits
  split
  · exact hunit n
  · rw [List.append_assoc]
    exact List.forall_mem_append.2 ⟨hunit _, hunit _⟩

/-- A character of a string is escaped unless it is in ASCII, or others are kept. -/
theorem isAscii_or_kept_of_writePoint (c : CodePoint) :
    ∀ d ∈ writePoint escaping c, d.IsAscii ∨ escaping = .controls ∧ d = c := by
  have hascii {t : Text} (ht : ∀ d ∈ t, d.IsAscii) :
      ∀ d ∈ t, d.IsAscii ∨ escaping = .controls ∧ d = c := fun d hd => .inl (ht d hd)
  unfold writePoint
  split
  · exact hascii (by decide)
  · exact hascii (by decide)
  · exact hascii (by decide)
  · exact hascii (by decide)
  · exact hascii (by decide)
  · exact hascii (by decide)
  · exact hascii (by decide)
  · split
    · exact hascii (isAscii_escapedUnits _)
    · rename_i hplain
      rw [List.forall_mem_singleton]
      cases escaping with
      | controls => exact .inr ⟨rfl, rfl⟩
      | nonAscii =>
        simp only [true_and, not_or] at hplain
        exact .inl ⟨Nat.le_of_not_lt hplain.1, by omega⟩

theorem isAscii_or_kept_of_writeString (t : Text) :
    ∀ c ∈ writeString escaping t, c.IsAscii ∨ escaping = .controls ∧ c ∈ t := by
  have hpoints : ∀ c ∈ t.flatMap (writePoint escaping),
      c.IsAscii ∨ escaping = .controls ∧ c ∈ t := by
    intro c hc
    obtain ⟨d, hd, hc⟩ := List.mem_flatMap.1 hc
    rcases isAscii_or_kept_of_writePoint d c hc with hascii | ⟨hkept, rfl⟩
    · exact .inl hascii
    · exact .inr ⟨hkept, hd⟩
  rw [writeString, List.cons_append, List.forall_mem_cons, List.forall_mem_append,
    List.forall_mem_singleton]
  exact ⟨.inl (by decide), hpoints, .inl (by decide)⟩

/-- A text is a string or a key of a document. -/
inductive Holds : Json → Text → Prop
  | string (t : Text) : Holds (string t) t
  | item {items : List Json} {v : Json} {t : Text} : v ∈ items → Holds v t → Holds (array items) t
  | key {entries : Entries Json} {e : Text × Json} : e ∈ entries → Holds (object entries) e.1
  | value {entries : Entries Json} {e : Text × Json} {t : Text} : e ∈ entries → Holds e.2 t →
    Holds (object entries) t

theorem IsScalar.of_holds {v : Json} (h : v.IsScalar) (ht : v.Holds t) : t.isScalar = true := by
  induction ht with
  | string t => exact isScalar_string_iff.1 h
  | item hv _ ih =>
    cases h with
    | array hitems => exact ih (hitems _ hv)
  | key he =>
    cases h with
    | object hkeys _ => exact hkeys _ he
  | value he _ ih =>
    cases h with
    | object _ hvalues => exact ih (hvalues _ he)

/-- What a writer may emit for a document. -/
def Emits (escaping : Escaping) (layout : Layout) (v : Json) (c : CodePoint) : Prop :=
  c.IsAscii ∨ (layout ≠ .oneLine ∧ c = .scalar '\n') ∨
    escaping = .controls ∧ ∃ t, v.Holds t ∧ c ∈ t

theorem Emits.mono {v w : Json} (h : v.Emits escaping layout c)
    (hholds : ∀ t, v.Holds t → w.Holds t) : w.Emits escaping layout c := by
  rcases h with hascii | hfeed | ⟨hkept, t, ht, hc⟩
  · exact .inl hascii
  · exact .inr (.inl hfeed)
  · exact .inr (.inr ⟨hkept, t, hholds t ht, hc⟩)

theorem emits_of_isAscii {v : Json} (ht : ∀ c ∈ t, c.IsAscii) :
    ∀ c ∈ t, v.Emits escaping layout c :=
  fun c hc => .inl (ht c hc)

theorem emits_lineBreak (v : Json) (level : Nat) :
    ∀ c ∈ layout.lineBreak level, v.Emits escaping layout c := by
  cases layout with
  | oneLine => simp [Layout.lineBreak]
  | indented width =>
    rw [Layout.lineBreak, List.forall_mem_cons]
    refine ⟨.inr (.inl ⟨by simp, rfl⟩), emits_of_isAscii fun c hc => ?_⟩
    rw [List.eq_of_mem_replicate hc]
    decide

theorem emits_separator (v : Json) (level : Nat) :
    ∀ c ∈ layout.separator level, v.Emits escaping layout c := by
  cases layout with
  | oneLine =>
    rw [Layout.separator]
    exact emits_of_isAscii (by decide)
  | indented width =>
    rw [Layout.separator, List.forall_mem_cons]
    exact ⟨.inl (by decide), emits_lineBreak v level⟩

theorem emits_writeAt (v : Json) (level : Nat) :
    ∀ c ∈ writeAt escaping layout level v, v.Emits escaping layout c := by
  induction v using induction_parts generalizing level with
  | null =>
    rw [writeAt]
    exact emits_of_isAscii (by decide)
  | bool b =>
    cases b with
    | false =>
      rw [writeAt]
      exact emits_of_isAscii (by decide)
    | true =>
      rw [writeAt]
      exact emits_of_isAscii (by decide)
  | int n =>
    rw [writeAt, ofInt_eq]
    exact emits_of_isAscii fun c hc => isAscii_of_isRun ((isWhole_toDigits _).isRun (by simp) c hc)
  | float x =>
    rw [writeAt]
    exact emits_of_isAscii fun c hc => isAscii_of_isRun ((isLiteral_float x).isRun c hc)
  | string t =>
    intro c hc
    rw [writeAt] at hc
    rcases isAscii_or_kept_of_writeString t c hc with hascii | ⟨hkept, hmem⟩
    · exact .inl hascii
    · exact .inr (.inr ⟨hkept, t, .string t, hmem⟩)
  | array items ih =>
    cases items with
    | nil =>
      rw [writeAt]
      exact emits_of_isAscii (by decide)
    | cons v items =>
      have hitems : ∀ c ∈ Text.join (layout.separator (level + 1))
          ((v :: items).map (writeAt escaping layout (level + 1))),
            (array (v :: items)).Emits escaping layout c := by
        refine Text.forall_mem_join (emits_separator _ _) ?_
        intro part hpart c hc
        obtain ⟨w, hw, rfl⟩ := List.mem_map.1 hpart
        exact (ih w hw (level + 1) c hc).mono fun _ => .item hw
      simp only [writeAt, writeItems_eq_map, List.cons_append, List.forall_mem_cons,
        List.forall_mem_append]
      exact ⟨.inl (by decide), ⟨⟨emits_lineBreak _ _, hitems⟩, emits_lineBreak _ _⟩,
        .inl (by decide), by simp⟩
  | object entries ih =>
    cases entries with
    | nil =>
      rw [writeAt]
      exact emits_of_isAscii (by decide)
    | cons e entries =>
      have hentries : ∀ c ∈ Text.join (layout.separator (level + 1)) ((e :: entries).map fun e =>
          writeString escaping e.1 ++ (": " ++ writeAt escaping layout (level + 1) e.2)),
            (object (e :: entries)).Emits escaping layout c := by
        refine Text.forall_mem_join (emits_separator _ _) ?_
        intro part hpart
        obtain ⟨d, hd, rfl⟩ := List.mem_map.1 hpart
        rw [List.forall_mem_append, List.forall_mem_append]
        refine ⟨fun c hc => ?_, emits_of_isAscii (by decide), fun c hc => ?_⟩
        · rcases isAscii_or_kept_of_writeString d.1 c hc with hascii | ⟨hkept, hmem⟩
          · exact .inl hascii
          · exact .inr (.inr ⟨hkept, d.1, .key hd, hmem⟩)
        · exact (ih d hd (level + 1) c hc).mono fun _ => .value hd
      simp only [writeAt, writeEntries_eq_map, List.cons_append, List.forall_mem_cons,
        List.forall_mem_append]
      exact ⟨.inl (by decide), ⟨⟨emits_lineBreak _ _, hentries⟩, emits_lineBreak _ _⟩,
        .inl (by decide), by simp⟩

theorem isAscii_write (v : Json) : ∀ c ∈ write .nonAscii v, c.IsAscii := by
  intro c hc
  rcases emits_writeAt v 0 c hc with hascii | ⟨hlayout, -⟩ | ⟨hescaping, -⟩
  · exact hascii
  · exact absurd rfl hlayout
  · cases hescaping

theorem IsScalar.isScalar_writeAt {v : Json} (h : v.IsScalar) (level : Nat) :
    (writeAt escaping layout level v).isScalar = true := by
  rw [Text.isScalar_iff]
  intro c hc
  rcases emits_writeAt v level c hc with hascii | ⟨-, rfl⟩ | ⟨-, t, ht, hmem⟩
  · exact hascii.isScalar
  · rfl
  · exact Text.isScalar_iff.1 (h.of_holds ht) c hmem

/-- The bytes of a document in ASCII are read as the document. -/
theorem IsDecoded.exists_bytes {v : Json} (h : v.IsDecoded) (hscalar : v.IsScalar) :
    ∃ bytes, Text.utf8? (write .nonAscii v) = some bytes ∧ (∀ b ∈ bytes, b < 0x80) ∧
      Text.ofUtf8? .refused bytes = some (write .nonAscii v) ∧
      read (write .nonAscii v) = .ok v := by
  obtain ⟨bytes, hbytes, hlow, hdecode⟩ := Text.exists_bytes_of_isAscii (isAscii_write v)
  exact ⟨bytes, hbytes, hlow, hdecode, (h.isReadable (.inr hscalar)).read_writeAt .oneLine⟩

end Json

end SchemaQuery
