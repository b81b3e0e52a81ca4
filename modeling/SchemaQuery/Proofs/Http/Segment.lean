import SchemaQuery.Http.Url
import SchemaQuery.Proofs.Text.Utf8

/-!
# Segments of addresses

A segment consists of characters that stand for themselves and of escapes, so no mark in it ends it
or begins another part of the address. Read back, its escapes are the bytes of the text that it was
made for, and two texts never have the same segment.
-/

namespace SchemaQuery.Http

/-- The letters and digits of ASCII and four marks stand for themselves. -/
def IsPlain (c : Char) : Prop :=
  c.isAlphanum = true ∨ c = '_' ∨ c = '.' ∨ c = '-' ∨ c = '~'

instance (c : Char) : Decidable (IsPlain c) := inferInstanceAs (Decidable (_ ∨ _))

/-- A part of a path with nothing in it but plain characters and escaped bytes. -/
inductive IsSegment : Text → Prop
  | nil : IsSegment []
  | plain {c : Char} {t : Text} : IsPlain c → IsSegment t → IsSegment (.scalar c :: t)
  | escape {high low : CodePoint} {t : Text} : high.hexDigit?.isSome = true →
    low.hexDigit?.isSome = true → IsSegment t → IsSegment (.scalar '%' :: high :: low :: t)

/-- The bytes that are escaped in a text or stand in it; none if there is a percent sign that begins
no escape, or a surrogate. -/
def unescapedBytes? : Text → Option Bytes
  | [] => some []
  | .scalar '%' :: high :: low :: t => do
    let h ← high.hexDigit?
    let l ← low.hexDigit?
    return .ofNat (16 * h + l) :: (← unescapedBytes? t)
  | .scalar '%' :: _ => none
  | .scalar c :: t => (unescapedBytes? t).map (CodePoint.utf8 c.toNat ++ ·)
  | .surrogate _ :: _ => none

def unescape? (t : Text) : Option Text := (unescapedBytes? t).bind (Text.ofUtf8? .refused)

variable {s t segment : Text} {c : CodePoint} {b : UInt8}

theorem unescapedBytes?_plain {c : Char} (h : c ≠ '%') (t : Text) :
    unescapedBytes? (.scalar c :: t) =
      (unescapedBytes? t).map (CodePoint.utf8 c.toNat ++ ·) := by
  rw [unescapedBytes?]
  · intro _ _ _ hc _
    apply h
    assumption
  · exact h

/-! ### Bytes -/

theorem hexDigit?_hexDigit {n : Nat} (h : n < 16) :
    (CodePoint.scalar (hexDigit n)).hexDigit? = some n := by
  have hall : ∀ digit : Fin 16,
      (CodePoint.scalar (hexDigit digit)).hexDigit? = some digit.val := by decide
  exact hall ⟨n, h⟩

theorem unescapedBytes?_escape (b : UInt8) (t : Text) :
    unescapedBytes? (.scalar '%' :: .scalar (hexDigit (b.toNat / 16)) ::
      .scalar (hexDigit (b.toNat % 16)) :: t) = (unescapedBytes? t).map (b :: ·) := by
  have hbyte := b.toNat_lt
  have hhigh := hexDigit?_hexDigit (show b.toNat / 16 < 16 by omega)
  have hlow := hexDigit?_hexDigit (show b.toNat % 16 < 16 by omega)
  have hnumber : UInt8.ofNat (16 * (b.toNat / 16) + b.toNat % 16) = b := by
    rw [Nat.div_add_mod, UInt8.ofNat_toNat]
  rw [unescapedBytes?, hhigh, hlow, Option.bind_eq_bind, Option.bind_some, Option.bind_eq_bind,
    Option.bind_some, hnumber]
  cases unescapedBytes? t <;> rfl

theorem isPlain_of_isUnreserved (h : isUnreserved b = true) : IsPlain (Char.ofNat b.toNat) := by
  simp only [isUnreserved, Bool.and_eq_true, Bool.or_eq_true, decide_eq_true_iff] at h
  obtain ⟨-, (((h | h) | h) | h) | h⟩ := h
  · exact .inl h
  · exact .inr (.inl h)
  · exact .inr (.inr (.inl h))
  · exact .inr (.inr (.inr (.inl h)))
  · exact .inr (.inr (.inr (.inr h)))

theorem IsPlain.ne {c mark : Char} (h : IsPlain c) (hmark : ¬IsPlain mark) : c ≠ mark := by
  rintro rfl
  exact hmark h

theorem utf8_of_isUnreserved (h : isUnreserved b = true) :
    CodePoint.utf8 (Char.ofNat b.toNat).toNat = [b] := by
  have hascii : b.toNat < 0x80 := by
    have hlow : b < 0x80 := of_decide_eq_true (Bool.and_eq_true_iff.1 h).1
    exact UInt8.lt_iff_toNat_lt.1 hlow
  have hvalid : b.toNat.isValidChar := .inl (by omega)
  have hnat : (Char.ofNat b.toNat).toNat = b.toNat := by
    rw [Char.ofNat, dif_pos hvalid]
    rfl
  rw [hnat, CodePoint.utf8, if_pos hascii, UInt8.ofNat_toNat]

theorem unescapedBytes?_escapeByte (b : UInt8) (t : Text) :
    unescapedBytes? (escapeByte b ++ t) = (unescapedBytes? t).map (b :: ·) := by
  unfold escapeByte
  split
  · rename_i hself
    have hpercent : Char.ofNat b.toNat ≠ '%' := (isPlain_of_isUnreserved hself).ne (by decide)
    rw [List.singleton_append, unescapedBytes?_plain hpercent, utf8_of_isUnreserved hself]
    rfl
  · exact unescapedBytes?_escape b t

theorem isSegment_escapeByte (b : UInt8) (h : IsSegment t) : IsSegment (escapeByte b ++ t) := by
  unfold escapeByte
  split
  · rename_i hself
    exact .plain (isPlain_of_isUnreserved hself) h
  · have hbyte := b.toNat_lt
    have hhigh := hexDigit?_hexDigit (show b.toNat / 16 < 16 by omega)
    have hlow := hexDigit?_hexDigit (show b.toNat % 16 < 16 by omega)
    exact .escape (Option.isSome_of_eq_some hhigh) (Option.isSome_of_eq_some hlow) h

/-! ### Texts -/

theorem unescapedBytes?_flatMap (bytes : Bytes) :
    unescapedBytes? (bytes.flatMap escapeByte) = some bytes := by
  induction bytes with
  | nil => rfl
  | cons b bytes ih => rw [List.flatMap_cons, unescapedBytes?_escapeByte, ih, Option.map_some]

theorem unescape?_of_segment? (h : segment? t = some segment) : unescape? segment = some t := by
  obtain ⟨bytes, hbytes, rfl⟩ := Option.map_eq_some_iff.1 h
  rw [unescape?, unescapedBytes?_flatMap, Option.bind_some, Text.ofUtf8?_of_utf8? .refused hbytes]

theorem isSegment_of_segment? (h : segment? t = some segment) : IsSegment segment := by
  obtain ⟨bytes, -, rfl⟩ := Option.map_eq_some_iff.1 h
  clear h
  induction bytes with
  | nil => exact .nil
  | cons b bytes ih => exact isSegment_escapeByte b ih

theorem isPlain_of_hexDigit? {c : Char} (h : (CodePoint.scalar c).hexDigit?.isSome = true) :
    IsPlain c := by
  apply Or.inl
  simp only [CodePoint.hexDigit?] at h
  split at h
  · rename_i hdigit
    simp [Char.isAlphanum, hdigit]
  split at h
  · rename_i hsmall
    have hle : c ≤ 'z' := Char.le_trans hsmall.2 (by decide)
    have hlower : c.isLower = true :=
      Bool.and_eq_true_iff.2 ⟨decide_eq_true hsmall.1, decide_eq_true hle⟩
    have hletter : c.isAlpha = true := Bool.or_eq_true_iff.2 (.inr hlower)
    simp [Char.isAlphanum, hletter]
  split at h
  · rename_i hcapital
    have hle : c ≤ 'Z' := Char.le_trans hcapital.2 (by decide)
    have hupper : c.isUpper = true := decide_eq_true ⟨hcapital.1, hle⟩
    have hletter : c.isAlpha = true := Bool.or_eq_true_iff.2 (.inl hupper)
    simp [Char.isAlphanum, hletter]
  · cases h

theorem IsSegment.isPlain_or_eq (h : IsSegment t) (hc : c ∈ t) :
    ∃ char, c = .scalar char ∧ (IsPlain char ∨ char = '%') := by
  induction h with
  | nil => cases hc
  | plain hplain _ ih =>
    rcases List.mem_cons.1 hc with rfl | hc
    · exact ⟨_, rfl, .inl hplain⟩
    · exact ih hc
  | @escape high low _ hhigh hlow _ ih =>
    simp only [List.mem_cons] at hc
    rcases hc with rfl | rfl | rfl | hc
    · exact ⟨'%', rfl, .inr rfl⟩
    · cases c with
      | scalar char => exact ⟨char, rfl, .inl (isPlain_of_hexDigit? hhigh)⟩
      | surrogate unit => cases hhigh
    · cases c with
      | scalar char => exact ⟨char, rfl, .inl (isPlain_of_hexDigit? hlow)⟩
      | surrogate unit => cases hlow
    · exact ih hc

theorem IsSegment.ne_mark {mark : Char} (h : IsSegment t) (hplain : ¬IsPlain mark)
    (hmark : mark ≠ '%') (hc : c ∈ t) : c ≠ .scalar mark := by
  obtain ⟨char, rfl, hchar⟩ := h.isPlain_or_eq hc
  rintro ⟨⟩
  exact hchar.elim hplain hmark

end SchemaQuery.Http
