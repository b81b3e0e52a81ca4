import SchemaQuery.Proofs.Binary64.Numeral
import SchemaQuery.Proofs.Json.Tokens

/-!
# Numbers read back

Every double is read back from its text, and every integer that does not have too many digits. A
text of a double is a numeral, whose digits and scale denote a number that the double is nearest to.
-/

namespace SchemaQuery

open JsonToken

def signText (negative : Bool) : Text := if negative then ("-" : Text) else []

theorem isRun_of_isDigit {c : Char} (h : c.isDigit = true) : isRun (.scalar c) = true := by
  simp [isRun, Char.isAlphanum, h]

theorem digit?_of_isDigit {c : Char} (h : c.isDigit = true) :
    (CodePoint.scalar c).digit? = some (c.toNat - '0'.toNat) := by
  simp [CodePoint.digit?, h]

namespace IsWhole

variable {cs : List Char}

theorem without_sign (h : IsWhole cs) (negative : Bool) (rest : Text) :
    Text.without "-" (signText negative ++ (cs.map .scalar ++ rest)) = cs.map .scalar ++ rest := by
  cases negative with
  | true => exact congrArg (Option.getD · _) (Text.after?_append "-" _)
  | false =>
    obtain ⟨c, ds, rfl, -, hne⟩ := h.exists_cons
    simp [signText, Text.without, Text.ofString, Text.after?, hne.symm]

theorem head?_sign (h : IsWhole cs) (negative : Bool) (rest : Text) :
    (signText negative ++ (cs.map CodePoint.scalar ++ rest)).head? = some (.scalar '-') ↔
      negative = true := by
  cases negative with
  | true => exact iff_of_true rfl rfl
  | false =>
    obtain ⟨c, ds, rfl, -, hne⟩ := h.exists_cons
    simp [signText, hne]

/-- A run with digits in front is none of the names. -/
theorem ofRun_eq (h : IsWhole cs) (negative : Bool) (rest : Text) :
    ofRun (signText negative ++ (cs.map .scalar ++ rest)) =
      ofNumber (signText negative ++ (cs.map .scalar ++ rest)) := by
  have hwithout := h.without_sign negative rest
  obtain ⟨c, ds, rfl, hc, -⟩ := h.exists_cons
  generalize signText negative ++ _ = t at hwithout ⊢
  have hname (name : Text) (hname : (Text.without "-" name).head?.bind CodePoint.digit? = none) :
      t ≠ name := by
    rintro rfl
    rw [hwithout, List.map_cons, List.cons_append, List.head?_cons, Option.bind_some,
      digit?_of_isDigit hc] at hname
    cases hname
  unfold ofRun
  rw [if_neg (hname _ (by decide)), if_neg (hname _ (by decide)), if_neg (hname _ (by decide)),
    if_neg (hname _ (by decide)), if_neg (hname _ (by decide)), if_neg (hname _ (by decide))]

end IsWhole

/-- The token of a number behind its whole digits. -/
def ofRest (negative : Bool) (whole : List Nat) (rest : Text) : JsonToken :=
  let fraction := fraction? rest
  let rest := (fraction.map Prod.snd).getD rest
  let exponent := Text.exponent? rest
  let rest := (exponent.map Prod.snd).getD rest
  if fraction.isNone && exponent.isNone then
    if digitLimit < whole.length then tooLong whole.length
    else if rest.isEmpty then
      let n : Int := Text.number whole
      literal (.int (if negative then -n else n))
    else invalid
  else if rest.isEmpty then
    let decimals := (fraction.map Prod.fst).getD []
    let scale := (exponent.map Prod.fst).getD 0
    literal (.float
      (.ofDecimal negative (Text.number (whole ++ decimals)) (scale - decimals.length)))
  else invalid

theorem IsWhole.ofNumber_eq {cs : List Char} (h : IsWhole cs) (negative : Bool) {rest : Text}
    (hrest : ∀ c ∈ rest.head?, c.digit? = none) :
    ofNumber (signText negative ++ (cs.map .scalar ++ rest)) =
      ofRest negative (Text.digitValues cs) rest := by
  have hspan := Text.spanDigits_append h.isDigit hrest
  unfold ofNumber
  simp only [h.without_sign, h.head?_sign, hspan]
  obtain ⟨d, hdigits⟩ | ⟨d, digits, hdigits⟩ := h.digitValues_cases
  · rw [hdigits]
    simp only [Bool.decide_eq_true]
    rfl
  · rw [hdigits]
    simp only [Bool.decide_eq_true]
    rfl

theorem ofRest_int (negative : Bool) {cs : List Char} (h : cs.length ≤ digitLimit) :
    ofRest negative (Text.digitValues cs) [] =
      literal (.int (if negative then -(Text.number (Text.digitValues cs) : Int)
        else Text.number (Text.digitValues cs))) := by
  have hlimit : ¬ digitLimit < (Text.digitValues cs).length := by
    simpa [Text.digitValues] using h
  simp only [ofRest, fraction?, Text.exponent?]
  simp [hlimit]

theorem ofInt_eq (n : Int) :
    Text.ofInt n = signText (n < 0) ++ ((Nat.toDigits 10 n.natAbs).map .scalar ++ []) := by
  cases n with
  | ofNat n =>
    have hsign : decide (Int.ofNat n < 0) = false := by simp
    rw [hsign]
    simp [Text.ofInt, Text.ofNat, signText]
  | negSucc n =>
    have hsign : Int.negSucc n < 0 := Int.negSucc_lt_zero n
    simp [Text.ofInt, Text.ofNat, signText, hsign, Text.ofString]

theorem isRun_of_mem_signText {negative : Bool} {c : CodePoint} (h : c ∈ signText negative) :
    isRun c = true := by
  cases negative with
  | true =>
    obtain rfl := List.mem_singleton.1 h
    rfl
  | false => cases h

theorem isRun_of_mem_digits {cs : List Char} (h : ∀ c ∈ cs, c.isDigit = true) {c : CodePoint}
    (hc : c ∈ cs.map CodePoint.scalar) : isRun c = true := by
  obtain ⟨d, hd, rfl⟩ := List.mem_map.1 hc
  exact isRun_of_isDigit (h d hd)

theorem IsWhole.isRun {cs : List Char} (h : IsWhole cs) {negative : Bool} {rest : Text}
    (hrest : ∀ c ∈ rest, JsonToken.isRun c = true) :
    ∀ c ∈ signText negative ++ (cs.map .scalar ++ rest), JsonToken.isRun c = true := by
  intro c hc
  simp only [List.mem_append] at hc
  rcases hc with hsign | hdigit | hmem
  · exact isRun_of_mem_signText hsign
  · exact isRun_of_mem_digits h.isDigit hdigit
  · exact hrest c hmem

theorem IsWhole.isLiteral {cs : List Char} (h : IsWhole cs) {negative : Bool} {rest : Text}
    {v : Json} (hrest : ∀ c ∈ rest, JsonToken.isRun c = true)
    (hhead : ∀ c ∈ rest.head?, c.digit? = none)
    (hv : ofRest negative (Text.digitValues cs) rest = literal v) :
    IsLiteral (signText negative ++ (cs.map .scalar ++ rest)) v where
  ne_nil := by simp [h.ne_nil]
  isRun := h.isRun hrest
  ofRun := by rw [h.ofRun_eq, h.ofNumber_eq negative hhead, hv]

/-- An integer is read back unless it has too many digits. -/
theorem isLiteral_int {n : Int} (h : (Nat.toDigits 10 n.natAbs).length ≤ digitLimit) :
    IsLiteral (Text.ofInt n) (.int n) := by
  rw [ofInt_eq]
  refine (isWhole_toDigits _).isLiteral (by simp) (by simp) ?_
  have hvalue : (if decide (n < 0) = true then -(n.natAbs : Int) else n.natAbs) = n := by
    simp only [decide_eq_true_iff]
    split <;> omega
  rw [ofRest_int _ h, Text.number_toDigits, hvalue]

/-! ### Doubles -/

namespace Numeral

variable {n : Numeral}

theorem exponent?_append {t rest : Text} {digits : List Nat} (hne : digits ≠ [])
    (h : Text.spanDigits t = (digits, rest)) (e : Int) :
    Text.exponent? ("e" ++ (if e < 0 then ("-" : Text) else "+") ++ t) =
      some (if e < 0 then -(Text.number digits : Int) else Text.number digits, rest) := by
  obtain ⟨d, digits, rfl⟩ := List.exists_cons_of_ne_nil hne
  split
  · simp [Text.exponent?, Text.ofString, Text.sign, h]
  · simp [Text.exponent?, Text.ofString, Text.sign, h]

theorem exponent?_power : Text.exponent? n.power = n.exponent.map (·, []) := by
  unfold power
  cases n.exponent with
  | none => rfl
  | some e =>
    have hspan : Text.spanDigits (Text.padded 2 e.natAbs ++ []) = _ :=
      Text.spanDigits_padded 2 e.natAbs (by simp)
    have hne : Text.digitValues (Text.paddedDigits 2 e.natAbs) ≠ [] := by
      simp [Text.digitValues, Text.paddedDigits, Nat.toDigits_ne_nil]
    have hvalue : (if e < 0 then -(e.natAbs : Int) else e.natAbs) = e := by split <;> omega
    rw [List.append_nil] at hspan
    simp only [exponent?_append hne hspan, Text.number_paddedDigits, hvalue, Option.map_some]

theorem digit?_of_mem_head?_power : ∀ c ∈ n.power.head?, c.digit? = none := by
  unfold power
  cases n.exponent with
  | none => simp
  | some e =>
    intro c hc
    obtain rfl : CodePoint.scalar 'e' = c := by simpa [Text.ofString] using hc
    rfl

theorem fraction?_power : fraction? n.power = none := by
  unfold power
  cases n.exponent <;> rfl

theorem fraction?_fraction (h : ∀ c ∈ n.decimals, c.isDigit = true) (hne : n.decimals ≠ []) :
    fraction? (n.fraction ++ n.power) = some (Text.digitValues n.decimals, n.power) := by
  have hspan := Text.spanDigits_append h (digit?_of_mem_head?_power (n := n))
  obtain ⟨c, cs, hdecimals⟩ := List.exists_cons_of_ne_nil hne
  rw [fraction, if_neg hne, List.cons_append, fraction?, hspan, hdecimals]
  rfl

theorem digit?_of_mem_head?_rest : ∀ c ∈ (n.fraction ++ n.power).head?, c.digit? = none := by
  unfold fraction
  split
  · exact digit?_of_mem_head?_power
  · intro c hc
    obtain rfl : CodePoint.scalar '.' = c := by simpa using hc
    rfl

theorem isRun_of_mem_rest (h : ∀ c ∈ n.decimals, c.isDigit = true) :
    ∀ c ∈ n.fraction ++ n.power, isRun c = true := by
  intro c hc
  rcases List.mem_append.1 hc with hfraction | hpower
  · unfold fraction at hfraction
    split at hfraction
    · cases hfraction
    · rcases List.mem_cons.1 hfraction with rfl | hdigit
      · rfl
      · exact isRun_of_mem_digits h hdigit
  · unfold power at hpower
    split at hpower
    · cases hpower
    · simp only [List.mem_append, Text.padded_eq] at hpower
      rcases hpower with (hletter | hsign) | hdigit
      · obtain rfl := List.mem_singleton.1 hletter
        rfl
      · split at hsign
        all_goals
          obtain rfl := List.mem_singleton.1 hsign
          rfl
      · exact isRun_of_mem_digits (fun _ => Text.isDigit_of_mem_paddedDigits) hdigit

theorem ofRest_eq (h : n.IsDouble) (negative : Bool) :
    ofRest negative (Text.digitValues n.whole) (n.fraction ++ n.power) =
      literal (.float (.ofDecimal negative n.digits n.scale)) := by
  by_cases hne : n.decimals = []
  · obtain ⟨e, he⟩ := Option.isSome_iff_exists.1 (h.isDouble.resolve_left (absurd hne))
    have hfraction : n.fraction = [] := if_pos hne
    simp [ofRest, hfraction, fraction?_power, exponent?_power, he, digits, scale, hne]
  · simp only [ofRest, fraction?_fraction h.isDigit hne]
    cases he : n.exponent with
    | none =>
      have hpower : n.power = [] := by rw [power, he]
      simp [Text.exponent?, he, hpower, digits, scale, Text.digitValues]
    | some e => simp [exponent?_power, he, digits, scale, Text.digitValues]

theorem IsDouble.isLiteral (h : n.IsDouble) (negative : Bool) :
    IsLiteral (signText negative ++ n.write) (.float (.ofDecimal negative n.digits n.scale)) :=
  h.isWhole.isLiteral (isRun_of_mem_rest h.isDigit) digit?_of_mem_head?_rest (ofRest_eq h negative)

end Numeral

theorem isLiteral_float (x : Binary64) : IsLiteral (x.write Json.specials) (.float x) := by
  cases x with
  | nan => exact ⟨nofun, by decide, rfl⟩
  | infinity negative =>
    cases negative with
    | true => exact ⟨nofun, by decide, rfl⟩
    | false => exact ⟨nofun, by decide, rfl⟩
  | finite negative m =>
    obtain ⟨n, hn, hwrite, hvalue⟩ := m.shortest.exists_numeral
    have hliteral := hn.isLiteral negative
    rw [m.ofDecimal?_shortest] at hvalue
    rw [Binary64.ofDecimal, hvalue] at hliteral
    rw [Binary64.write, hwrite]
    exact hliteral

end SchemaQuery
