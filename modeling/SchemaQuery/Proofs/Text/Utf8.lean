import SchemaQuery.Text.Bytes

/-!
# UTF-8 read back

The bytes of a text are read back as that text, however surrogates are treated: what has bytes holds
none of them. A reader that refuses them reads no other bytes. Among the names of files, those of
ASCII characters have no other spelling.
-/

namespace SchemaQuery

namespace CodePoint

theorem toNat_bounds (c : Char) : c.toNat < 0xD800 ∨ 0xE000 ≤ c.toNat ∧ c.toNat < 0x110000 := by
  have h := c.valid
  simp only [UInt32.isValidChar, Nat.isValidChar] at h
  exact h

@[simp] theorem ofNat_toNat (c : Char) : ofNat c.toNat = .scalar c := by
  have h : ¬ (0xD800 ≤ c.toNat ∧ c.toNat < 0xE000) := by
    have := toNat_bounds c
    omega
  simp [ofNat, h]

/-- The number of a scalar value is that of its character. -/
theorem exists_char {n : Nat} (h : n < 0xD800 ∨ 0xE000 ≤ n ∧ n < 0x110000) :
    ∃ c : Char, ofNat n = .scalar c ∧ c.toNat = n := by
  have hvalid : n.isValidChar := h
  refine ⟨Char.ofNat n, ?_, ?_⟩
  · rw [ofNat, dif_neg (by omega)]
  · rw [Char.ofNat, dif_pos hvalid]
    rfl

theorem utf8_ne_nil (n : Nat) : utf8 n ≠ [] := by
  unfold utf8
  repeat' split
  all_goals exact List.cons_ne_nil _ _

end CodePoint

namespace Text

theorem toNat_byte {n : Nat} (h : n < 256) : (UInt8.ofNat n).toNat = n := by
  rw [UInt8.toNat_ofNat']
  exact Nat.mod_eq_of_lt h

theorem isContinuation_byte {n : Nat} (h : n < 64) :
    isContinuation (.ofNat (0x80 + n)) = true := by
  have hn := toNat_byte (show 0x80 + n < 256 by omega)
  rw [isContinuation, hn]
  simp
  omega

theorem ofUtf8?_utf8 (surrogates : Surrogates) (c : Char) (rest : Bytes) :
    ofUtf8? surrogates (CodePoint.utf8 c.toNat ++ rest) =
      (ofUtf8? surrogates rest).map (.scalar c :: ·) := by
  have hbounds := CodePoint.toNat_bounds c
  have hpoint := CodePoint.ofNat_toNat c
  generalize c.toNat = n at hbounds hpoint ⊢
  have hlow := toNat_byte (show 0x80 + n % 64 < 256 by omega)
  have hmiddle := toNat_byte (show 0x80 + n / 64 % 64 < 256 by omega)
  have hhigh := toNat_byte (show 0x80 + n / 4096 % 64 < 256 by omega)
  have hlow' := isContinuation_byte (Nat.mod_lt n (show 0 < 64 by decide))
  have hmiddle' := isContinuation_byte (Nat.mod_lt (n / 64) (show 0 < 64 by decide))
  have hhigh' := isContinuation_byte (Nat.mod_lt (n / 4096) (show 0 < 64 by decide))
  by_cases hone : n < 0x80
  · have hlead := toNat_byte (show n < 256 by omega)
    rw [CodePoint.utf8, if_pos hone, List.cons_append, List.nil_append, ofUtf8?.eq_def]
    simp only [hlead, hone, hpoint, if_true]
  by_cases htwo : n < 0x800
  · have hlead := toNat_byte (show 0xC0 + n / 64 < 256 by omega)
    have hnumber : (0xC0 + n / 64 - 0xC0) * 64 + (0x80 + n % 64 - 0x80) = n := by omega
    simp only [CodePoint.utf8, hone, htwo, if_true, if_false, List.cons_append, List.nil_append]
    rw [ofUtf8?.eq_def]
    simp only [hlead, hlow, hlow', hnumber, hpoint, Bool.not_true, Bool.false_eq_true, if_false]
    rw [if_neg (by omega), if_pos (by omega)]
  by_cases hthree : n < 0x10000
  · have hlead := toNat_byte (show 0xE0 + n / 4096 < 256 by omega)
    have hnumber : (0xE0 + n / 4096 - 0xE0) * 4096 + (0x80 + n / 64 % 64 - 0x80) * 64 +
        (0x80 + n % 64 - 0x80) = n := by omega
    simp only [CodePoint.utf8, hone, htwo, hthree, if_true, if_false, List.cons_append,
      List.nil_append]
    rw [ofUtf8?.eq_def]
    simp only [hlead, hlow, hlow', hmiddle, hmiddle', hnumber, hpoint, Bool.not_true,
      Bool.false_eq_true, if_false]
    rw [if_neg (by omega), if_neg (by omega), if_pos (by omega), if_neg (by omega)]
  · have hlead := toNat_byte (show 0xF0 + n / 262144 < 256 by omega)
    have hnumber : (0xF0 + n / 262144 - 0xF0) * 262144 + (0x80 + n / 4096 % 64 - 0x80) * 4096 +
        (0x80 + n / 64 % 64 - 0x80) * 64 + (0x80 + n % 64 - 0x80) = n := by omega
    simp only [CodePoint.utf8, hone, htwo, hthree, if_false, List.cons_append, List.nil_append]
    rw [ofUtf8?.eq_def]
    simp only [hlead, hlow, hlow', hmiddle, hmiddle', hhigh, hhigh', hnumber,
      hpoint, Bool.not_true, Bool.false_eq_true, if_false, Bool.true_and,
      Bool.and_eq_true, decide_eq_true_iff]
    rw [if_neg (by omega), if_neg (by omega), if_neg (by omega), if_pos (by omega)]

theorem ofUtf8?_of_utf8? (surrogates : Surrogates) {t : Text} {bytes : Bytes}
    (h : utf8? t = some bytes) : ofUtf8? surrogates bytes = some t := by
  induction t generalizing bytes with
  | nil =>
    obtain rfl : [] = bytes := by simpa [utf8?] using h
    rfl
  | cons c t ih =>
    cases c with
    | surrogate unit => simp [utf8?] at h
    | scalar c =>
      simp only [utf8?, Option.map_eq_some_iff] at h
      obtain ⟨rest, hrest, rfl⟩ := h
      rw [ofUtf8?_utf8, ih hrest, Option.map_some]

theorem utf8?_isSome {t : Text} : (utf8? t).isSome = t.isScalar := by
  induction t with
  | nil => rfl
  | cons c t ih => cases c <;> simp_all [utf8?, isScalar, CodePoint.isScalar]

/-! ### Bytes that are read -/

theorem of_isContinuation {b : UInt8} (h : isContinuation b = true) :
    0x80 ≤ b.toNat ∧ b.toNat < 0xC0 := by
  simpa [isContinuation] using h

/-- The bytes begin with those of a character, and the text with the character. -/
def Begins (bytes : Bytes) (t : Text) : Prop :=
  ∃ (c : Char) (rest : Bytes) (others : Text), bytes = CodePoint.utf8 c.toNat ++ rest ∧
    ofUtf8? .refused rest = some others ∧ t = .scalar c :: others

theorem begins_of_map {n : Nat} {lead rest : Bytes} {t : Text} (hlead : CodePoint.utf8 n = lead)
    (hn : n < 0xD800 ∨ 0xE000 ≤ n ∧ n < 0x110000)
    (h : (ofUtf8? .refused rest).map (.ofNat n :: ·) = some t) : Begins (lead ++ rest) t := by
  obtain ⟨c, hc, rfl⟩ := CodePoint.exists_char hn
  obtain ⟨others, hothers, rfl⟩ := Option.map_eq_some_iff.1 h
  exact ⟨c, rest, others, by rw [hlead], hothers, by rw [hc]⟩

/-- What is read begins with a character in its shortest form. -/
theorem begins_of_ofUtf8? {a : UInt8} {bytes : Bytes} {t : Text}
    (h : ofUtf8? .refused (a :: bytes) = some t) : Begins (a :: bytes) t := by
  have hbyte {b : UInt8} {n : Nat} (hb : n = b.toNat) : UInt8.ofNat n = b := by
    rw [hb, UInt8.ofNat_toNat]
  have ha := a.toNat_lt
  -- The cases are those of the reader: each byte that is needed must be there and be a
  -- continuation.
  rw [ofUtf8?.eq_def] at h
  simp only at h
  split at h
  · rename_i hone
    have hlead : CodePoint.utf8 a.toNat = [a] := by
      rw [CodePoint.utf8, if_pos hone, hbyte rfl]
    exact begins_of_map hlead (by omega) h
  split at h
  · cases h
  rename_i b bytes
  split at h
  · cases h
  rename_i hb
  obtain ⟨hblow, hbhigh⟩ := of_isContinuation (by simpa using hb)
  split at h
  · rename_i htwo
    have hlead : CodePoint.utf8 ((a.toNat - 0xC0) * 64 + (b.toNat - 0x80)) = [a, b] := by
      rw [CodePoint.utf8, if_neg (by omega), if_pos (by omega), @hbyte a _ (by omega),
        @hbyte b _ (by omega)]
    exact begins_of_map hlead (by omega) h
  split at h
  · cases h
  rename_i c bytes
  split at h
  · cases h
  rename_i hc
  obtain ⟨hclow, hchigh⟩ := of_isContinuation (by simpa using hc)
  split at h
  · rename_i hthree
    split at h
    · cases h
    rename_i hn
    simp only [true_and, not_or] at hn
    have hlead : CodePoint.utf8
        ((a.toNat - 0xE0) * 4096 + (b.toNat - 0x80) * 64 + (c.toNat - 0x80)) = [a, b, c] := by
      rw [CodePoint.utf8, if_neg (by omega), if_neg (by omega), if_pos (by omega),
        @hbyte a _ (by omega), @hbyte b _ (by omega), @hbyte c _ (by omega)]
    exact begins_of_map hlead (by omega) h
  split at h
  · cases h
  rename_i d bytes
  split at h
  · rename_i hfour
    simp only [Bool.and_eq_true, decide_eq_true_iff] at hfour
    obtain ⟨⟨⟨hd, hahigh⟩, hnlow⟩, hnhigh⟩ := hfour
    obtain ⟨hdlow, hdhigh⟩ := of_isContinuation hd
    have hlead : CodePoint.utf8 ((a.toNat - 0xF0) * 262144 + (b.toNat - 0x80) * 4096 +
        (c.toNat - 0x80) * 64 + (d.toNat - 0x80)) = [a, b, c, d] := by
      rw [CodePoint.utf8, if_neg (by omega), if_neg (by omega), if_neg (by omega),
        @hbyte a _ (by omega), @hbyte b _ (by omega), @hbyte c _ (by omega), @hbyte d _ (by omega)]
    exact begins_of_map hlead (by omega) h
  · cases h

/-- Only the bytes of a text are read as one, and only as that one. -/
theorem utf8?_of_ofUtf8? {bytes : Bytes} {t : Text} (h : ofUtf8? .refused bytes = some t) :
    utf8? t = some bytes := by
  induction hlength : bytes.length using Nat.strongRecOn generalizing bytes t with
  | _ length ih =>
    cases bytes with
    | nil =>
      cases h
      rfl
    | cons a bytes =>
      obtain ⟨c, rest, others, hbytes, hrest, rfl⟩ := begins_of_ofUtf8? h
      have hshorter : rest.length < length := by
        have hlead := List.length_pos_iff.2 (CodePoint.utf8_ne_nil c.toNat)
        rw [← hlength, hbytes, List.length_append]
        omega
      rw [hbytes, utf8?, ih rest.length hshorter hrest rfl, Option.map_some]

theorem ofUtf8?_eq_some_iff {bytes : Bytes} {t : Text} :
    ofUtf8? .refused bytes = some t ↔ utf8? t = some bytes :=
  ⟨utf8?_of_ofUtf8?, ofUtf8?_of_utf8? .refused⟩

/-! ### Names of ASCII characters -/

theorem bytes?_ascii {cs : List Char} (h : ∀ c ∈ cs, c.toNat < 0x80) :
    bytes? (cs.map .scalar) = some (cs.map fun c => .ofNat c.toNat) := by
  induction cs with
  | nil => rfl
  | cons c cs ih =>
    have hc := h c List.mem_cons_self
    have hcs := ih fun d hd => h d (List.mem_cons_of_mem _ hd)
    simp [bytes?, CodePoint.bytes?, CodePoint.utf8, hc, hcs]

theorem ofBytes_ascii {cs : List Char} (h : ∀ c ∈ cs, c.toNat < 0x80) :
    ofBytes (cs.map fun c => .ofNat c.toNat) = cs.map .scalar := by
  induction cs with
  | nil => rw [List.map_nil, ofBytes, List.map_nil]
  | cons c cs ih =>
    have hc := h c List.mem_cons_self
    have hcs := ih fun d hd => h d (List.mem_cons_of_mem _ hd)
    have hbyte : ofUtf8? .refused [.ofNat c.toNat] = some [.scalar c] := by
      simpa [CodePoint.utf8, hc, ofUtf8?] using ofUtf8?_utf8 .refused c []
    have hleading (rest : Bytes) : leading? (.ofNat c.toNat :: rest) = some (.scalar c, 1) := by
      simp [leading?, hbyte]
    rw [List.map_cons, ofBytes, hleading]
    simp [hcs]

theorem asName_ascii {cs : List Char} (h : ∀ c ∈ cs, c.toNat < 0x80) :
    asName (cs.map .scalar) = cs.map .scalar := by
  rw [asName, bytes?_ascii h, Option.map_some, ofBytes_ascii h, Option.getD_some]

end Text

end SchemaQuery
