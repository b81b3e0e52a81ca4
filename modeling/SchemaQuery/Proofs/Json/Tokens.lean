import SchemaQuery.Json.Token
import SchemaQuery.Json.Writer
import SchemaQuery.Proofs.Text.Utf8

/-!
# Tokens read back

A run ends where something stands that cannot continue it, and space between tokens leaves no trace.
A string that was written is one token with the same text, unless its surrogates are escaped: two of
them that stand side by side would be joined.
-/

namespace SchemaQuery

namespace JsonToken

/-- The text does not begin with a character that would continue a run. -/
def EndsRun (t : Text) : Prop := ∀ c ∈ t.head?, isRun c = false

theorem endsRun_cons {c : CodePoint} (h : isRun c = false) (t : Text) : EndsRun (c :: t) := by
  simpa [EndsRun] using h

theorem endsRun_of_append {t u : Text} (h : EndsRun (t ++ u)) : EndsRun t := by
  intro c hc
  apply h c
  rw [List.head?_append, Option.mem_def.1 hc]
  rfl

/-- A text is one run, and the run is a literal. -/
structure IsLiteral (t : Text) (v : Json) : Prop where
  ne_nil : t ≠ []
  isRun : ∀ c ∈ t, isRun c = true
  ofRun : ofRun t = .literal v

theorem isRun_of_isSpace {c : CodePoint} (h : isSpace c = true) : isRun c = false := by
  simp only [isSpace, Bool.or_eq_true, decide_eq_true_iff] at h
  obtain ((rfl | rfl) | rfl) | rfl := h <;> rfl

theorem enter_of_isRun {c : CodePoint} (h : isRun c = true) : enter c = ([], some (.run [c])) := by
  cases hspace : isSpace c with
  | false => simp [enter, h, hspace]
  | true =>
    rw [isRun_of_isSpace hspace] at h
    cases h

theorem scan_space {c : CodePoint} (h : isSpace c = true) (t : Text) :
    scan .between (c :: t) = scan .between t := by
  simp [scan, step, enter, h]

theorem scan_spaces {spaces : Text} (h : ∀ c ∈ spaces, isSpace c = true) (t : Text) :
    scan .between (spaces ++ t) = scan .between t := by
  induction spaces with
  | nil => rfl
  | cons c spaces ih =>
    have hc := h c List.mem_cons_self
    have hspaces := ih fun d hd => h d (List.mem_cons_of_mem _ hd)
    rw [List.cons_append, scan_space hc, hspaces]

theorem scan_run_append {t rest : Text} (ht : ∀ c ∈ t, isRun c = true) (hrest : EndsRun rest)
    (read : Text) :
    scan (.run read) (t ++ rest) = ofRun (read.reverse ++ t) :: scan .between rest := by
  induction t generalizing read with
  | nil =>
    cases rest with
    | nil => simp [scan, finish]
    | cons c rest =>
      have hc : isRun c = false := hrest c rfl
      rcases h : enter c with ⟨tokens, _ | mode⟩ <;> simp [scan, step, hc, h]
  | cons c t ih =>
    have hc := ht c List.mem_cons_self
    have hscan := ih (fun d hd => ht d (List.mem_cons_of_mem _ hd)) (c :: read)
    simp [scan, step, hc, hscan]

theorem scan_run {t rest : Text} (hne : t ≠ []) (ht : ∀ c ∈ t, isRun c = true)
    (hrest : EndsRun rest) : scan .between (t ++ rest) = ofRun t :: scan .between rest := by
  obtain ⟨c, t, rfl⟩ := List.exists_cons_of_ne_nil hne
  have hc := enter_of_isRun (ht c List.mem_cons_self)
  have hscan := scan_run_append (fun d hd => ht d (List.mem_cons_of_mem _ hd)) hrest [c]
  simp only [List.reverse_singleton, List.singleton_append] at hscan
  simp [scan, step, hc, hscan]

theorem scan_literal {t rest : Text} {v : Json} (h : IsLiteral t v) (hrest : EndsRun rest) :
    scan .between (t ++ rest) = literal v :: scan .between rest := by
  rw [scan_run h.ne_nil h.isRun hrest, h.ofRun]

/-! ### Strings -/

theorem hexDigit?_digitChar :
    ∀ d < 16, (CodePoint.scalar (Nat.digitChar d)).hexDigit? = some d := by decide

theorem hexadecimal_eq {n : Nat} (h : n < 0x10000) :
    Text.hexadecimal 4 n = [.scalar (n / 4096).digitChar, .scalar (n / 256 % 16).digitChar,
      .scalar (n / 16 % 16).digitChar, .scalar (n % 16).digitChar] := by
  have hdigits (m : Nat) : Nat.toDigits 16 m =
      if m < 16 then [m.digitChar] else Nat.toDigits 16 (m / 16) ++ [(m % 16).digitChar] :=
    Nat.toDigits_eq_if (by decide)
  have hsixteen : n / 16 / 16 = n / 256 := Nat.div_div_eq_div_mul n 16 16
  have hthousands : n / 256 / 16 = n / 4096 := Nat.div_div_eq_div_mul n 256 16
  unfold Text.hexadecimal
  by_cases hone : n < 16
  · have hlow : n % 16 = n := by omega
    have hzeros : n / 16 = 0 ∧ n / 256 = 0 ∧ n / 4096 = 0 := by omega
    rw [hdigits, if_pos hone]
    simp [hlow, hzeros, List.replicate]
  by_cases htwo : n < 256
  · have hlow : n / 16 % 16 = n / 16 := by omega
    have hzeros : n / 256 = 0 ∧ n / 4096 = 0 := by omega
    rw [hdigits, if_neg hone, hdigits, if_pos (by omega)]
    simp [hlow, hzeros, List.replicate]
  by_cases hthree : n < 4096
  · have hlow : n / 256 % 16 = n / 256 := by omega
    have hzero : n / 4096 = 0 := by omega
    rw [hdigits, if_neg hone, hdigits, if_neg (by omega), hdigits, if_pos (by omega)]
    simp [hlow, hzero, hsixteen]
  · rw [hdigits, if_neg hone, hdigits, if_neg (by omega), hdigits, if_neg (by omega), hdigits,
      if_pos (by omega)]
    simp [hsixteen, hthousands]

theorem scan_hexadecimal {n : Nat} (h : n < 0x10000) (read : List Piece) (rest : Text) :
    scan (.unit read []) (Text.hexadecimal 4 n ++ rest) =
      scan (.string (.unit n :: read)) rest := by
  have hnumber : ((n / 4096 * 16 + n / 256 % 16) * 16 + n / 16 % 16) * 16 + n % 16 = n := by omega
  simp [hexadecimal_eq h, scan, step, hexDigit?_digitChar _ (show n / 4096 < 16 by omega),
    hexDigit?_digitChar _ (Nat.mod_lt _ (show 0 < 16 by decide)), hnumber]

theorem joinPieces_unit {u : Nat} (h : ¬ (0xD800 ≤ u ∧ u < 0xDC00)) (more : List Piece) :
    joinPieces (.unit u :: more) = .ofNat u :: joinPieces more := by
  cases more with
  | nil => rfl
  | cons p more =>
    cases p with
    | point c => rfl
    | unit v =>
      rw [joinPieces, if_neg]
      exact fun hpair => h ⟨hpair.1, hpair.2.1⟩

theorem exists_pieces_escapedUnits {c : CodePoint} (h : c.value < 0x20 ∨ c.isScalar = true) :
    ∃ ps : List Piece,
      (∀ read rest, scan (.string read) (Json.escapedUnits c.value ++ rest) =
        scan (.string (ps.reverse ++ read)) rest) ∧
      ∀ more, joinPieces (ps ++ more) = c :: joinPieces more := by
  have hunit {n : Nat} (hn : n < 0x10000) (read : List Piece) (rest : Text) :
      scan (.string read) ("\\u" ++ (Text.hexadecimal 4 n ++ rest)) =
        scan (.string (.unit n :: read)) rest := by
    rw [← scan_hexadecimal hn read rest]
    rfl
  have hbounds : ¬ (0xD800 ≤ c.value ∧ c.value < 0xE000) ∧ c.value < 0x110000 := by
    cases c with
    | scalar c =>
      have := CodePoint.toNat_bounds c
      simp only [CodePoint.value]
      omega
    | surrogate unit =>
      simp only [CodePoint.value, CodePoint.isScalar, Bool.false_eq_true, or_false] at h
      omega
  have hpoint : CodePoint.ofNat c.value = c := by
    cases c with
    | scalar c => exact CodePoint.ofNat_toNat c
    | surrogate unit =>
      simp only [CodePoint.value, CodePoint.isScalar, Bool.false_eq_true, or_false] at h
      omega
  unfold Json.escapedUnits
  by_cases hsmall : c.value < 0x10000
  · refine ⟨[.unit c.value], fun read rest => ?_, fun more => ?_⟩
    · rw [if_pos hsmall, List.append_assoc, hunit hsmall]
      rfl
    · rw [List.singleton_append, joinPieces_unit (by omega), hpoint]
  · refine ⟨[.unit (0xD800 + (c.value - 0x10000) / 1024),
      .unit (0xDC00 + (c.value - 0x10000) % 1024)], fun read rest => ?_, fun more => ?_⟩
    · simp only [if_neg hsmall, List.append_assoc]
      rw [hunit (by omega), hunit (by omega)]
      rfl
    · have hvalue : 0x10000 + (0xD800 + (c.value - 0x10000) / 1024 - 0xD800) * 1024 +
          (0xDC00 + (c.value - 0x10000) % 1024 - 0xDC00) = c.value := by omega
      simp only [List.cons_append, List.nil_append, joinPieces]
      rw [if_pos (by omega), hvalue, hpoint]

/-- Where a code point was written into a string, the string takes up what is joined to that code
point again. -/
theorem exists_pieces {escaping : Escaping} {c : CodePoint}
    (h : escaping = .controls ∨ c.isScalar = true) :
    ∃ ps : List Piece,
      (∀ read rest, scan (.string read) (Json.writePoint escaping c ++ rest) =
        scan (.string (ps.reverse ++ read)) rest) ∧
      ∀ more, joinPieces (ps ++ more) = c :: joinPieces more := by
  unfold Json.writePoint
  split
  · exact ⟨[.point '"'], fun _ _ => rfl, fun _ => rfl⟩
  · exact ⟨[.point '\\'], fun _ _ => rfl, fun _ => rfl⟩
  · exact ⟨[.point '\n'], fun _ _ => rfl, fun _ => rfl⟩
  · exact ⟨[.point '\r'], fun _ _ => rfl, fun _ => rfl⟩
  · exact ⟨[.point '\t'], fun _ _ => rfl, fun _ => rfl⟩
  · exact ⟨[.point '\x08'], fun _ _ => rfl, fun _ => rfl⟩
  · exact ⟨[.point '\x0c'], fun _ _ => rfl, fun _ => rfl⟩
  · rename_i hquote hbackslash _ _ _ _ _
    split
    · rename_i hescaped
      have hscalar : c.value < 0x20 ∨ c.isScalar = true := by
        rcases hescaped with hcontrol | ⟨rfl, -⟩
        · exact Or.inl hcontrol
        · exact Or.inr (by simpa using h)
      exact exists_pieces_escapedUnits hscalar
    · rename_i hplain
      have hcontrol : ¬ c.value < 0x20 := fun hlt => hplain (Or.inl hlt)
      refine ⟨[.point c], fun read rest => ?_, fun _ => rfl⟩
      have hquote' : c ≠ .scalar '"' := fun hc => hquote hc
      have hbackslash' : c ≠ .scalar '\\' := fun hc => hbackslash hc
      simp [scan, step, hquote', hbackslash', hcontrol]

theorem exists_pieces_text {escaping : Escaping} {t : Text}
    (h : escaping = .controls ∨ t.isScalar = true) :
    ∃ ps : List Piece,
      (∀ read rest, scan (.string read) (t.flatMap (Json.writePoint escaping) ++ rest) =
        scan (.string (ps.reverse ++ read)) rest) ∧
      ∀ more, joinPieces (ps ++ more) = t ++ joinPieces more := by
  induction t with
  | nil => exact ⟨[], fun _ _ => rfl, fun _ => rfl⟩
  | cons c t ih =>
    have hcond : (escaping = .controls ∨ c.isScalar = true) ∧
        (escaping = .controls ∨ Text.isScalar t = true) := by
      rcases h with h | h
      · exact ⟨Or.inl h, Or.inl h⟩
      · have hboth : c.isScalar = true ∧ Text.isScalar t = true := by
          simpa [Text.isScalar] using h
        exact ⟨Or.inr hboth.1, Or.inr hboth.2⟩
    obtain ⟨ps, hscan, hjoin⟩ := exists_pieces hcond.1
    obtain ⟨qs, hscans, hjoins⟩ := ih hcond.2
    refine ⟨ps ++ qs, fun read rest => ?_, fun more => ?_⟩
    · simp [hscan, hscans]
    · simp [hjoin, hjoins]

theorem scan_writeString {escaping : Escaping} {t : Text}
    (h : escaping = .controls ∨ t.isScalar = true) (rest : Text) :
    scan .between (Json.writeString escaping t ++ rest) = string t :: scan .between rest := by
  obtain ⟨ps, hscan, hjoin⟩ := exists_pieces_text h
  have hopen (text : Text) : scan .between (.scalar '"' :: text) = scan (.string []) text := rfl
  have hclose (read : List Piece) : scan (.string read) (.scalar '"' :: rest) =
      string (joinPieces read.reverse) :: scan .between rest := rfl
  have htext := hjoin []
  simp only [List.append_nil, joinPieces] at htext
  simp only [Json.writeString, List.cons_append, List.append_assoc, List.nil_append]
  rw [hopen, hscan, hclose, List.append_nil, List.reverse_reverse, htext]

end JsonToken

end SchemaQuery
