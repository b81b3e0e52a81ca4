import SchemaQuery.Proofs.Json.Numbers
import SchemaQuery.Proofs.Json.RoundTrip
import SchemaQuery.Proofs.Json.Scalar
import SchemaQuery.Proofs.Outcome

/-!
# Documents that were read

A reader leaves no key of an object twice and no integer with too many digits. So whatever it has
read is read back from every text that is written for it, unless surrogates are escaped.
-/

namespace SchemaQuery

namespace Json

open JsonToken

/-- A document that a reader can come to. -/
inductive IsDecoded : Json → Prop
  | null : IsDecoded null
  | bool (b : Bool) : IsDecoded (bool b)
  | int {n : Int} : (Nat.toDigits 10 n.natAbs).length ≤ digitLimit → IsDecoded (int n)
  | float (x : Binary64) : IsDecoded (float x)
  | string (t : Text) : IsDecoded (string t)
  | array {items : List Json} : (∀ v ∈ items, IsDecoded v) → IsDecoded (array items)
  | object {entries : Entries Json} : entries.keys.Nodup → (∀ e ∈ entries, IsDecoded e.2) →
    IsDecoded (object entries)

theorem IsDecoded.isReadable {escaping : Escaping} {v : Json} (h : v.IsDecoded)
    (hscalar : escaping = .controls ∨ v.IsScalar) : v.IsReadable escaping := by
  induction h with
  | null => exact .null
  | bool b => exact .bool b
  | int hn => exact .int (isLiteral_int hn)
  | float x => exact .float (isLiteral_float x)
  | string t => exact .string (hscalar.imp_right isScalar_string_iff.1)
  | array _ ih =>
    refine .array fun v hv => ih v hv (hscalar.imp_right fun h => ?_)
    cases h with
    | array hitems => exact hitems v hv
  | object hnodup _ ih =>
    refine .object hnodup (fun key hkey => hscalar.imp_right fun h => ?_)
      fun e he => ih e he (hscalar.imp_right fun h => ?_)
    · obtain ⟨e, he, rfl⟩ := List.mem_map.1 hkey
      cases h with
      | object hkeys _ => exact hkeys e he
    · cases h with
      | object _ hvalues => exact hvalues e he

end Json

/-! ### Tokens -/

namespace Text

theorem lt_of_mem_spanDigits {t : Text} {d : Nat} (h : d ∈ (spanDigits t).1) : d < 10 := by
  induction t with
  | nil => cases h
  | cons c t ih =>
    unfold spanDigits at h
    split at h
    · rename_i hdigit
      rcases List.mem_cons.1 h with rfl | h
      · exact lt_of_digit? hdigit
      · exact ih h
    · cases h

end Text

namespace JsonToken

/-- A value in the token is one that a reader can come to, and a number that is too long for it has
more digits than are accepted. -/
def IsDecoded : JsonToken → Prop
  | literal v => v.IsDecoded
  | tooLong digits => digitLimit < digits
  | _ => True

theorem length_toDigits_number_le {digits : List Nat} (hne : digits ≠ [])
    (h : ∀ d ∈ digits, d < 10) :
    (Nat.toDigits 10 (Text.number digits)).length ≤ digits.length :=
  (Nat.length_toDigits_le_iff (by decide) (List.length_pos_of_ne_nil hne)).2 (Text.number_lt h)

theorem isDecoded_ofNumber (t : Text) : (ofNumber t).IsDecoded := by
  unfold ofNumber
  simp only
  split
  · trivial
  · trivial
  rename_i whole rest hne _ hspan
  have hdigits : ∀ d ∈ whole, d < 10 := by
    intro d hd
    exact Text.lt_of_mem_spanDigits (by rwa [hspan])
  split
  · split
    · assumption
    rename_i hlimit
    split
    · have habs (negative : Prop) [Decidable negative] :
          (if negative then -(Text.number whole : Int) else Text.number whole).natAbs =
            Text.number whole := by
        split <;> simp
      refine .int ?_
      rw [habs]
      exact Nat.le_trans (length_toDigits_number_le hne hdigits) (Nat.not_lt.1 hlimit)
    · trivial
  · split
    · exact .float _
    · trivial

theorem isDecoded_ofRun (t : Text) : (ofRun t).IsDecoded := by
  unfold ofRun
  split
  · exact .null
  split
  · exact .bool true
  split
  · exact .bool false
  split
  · exact .float _
  split
  · exact .float _
  split
  · exact .float _
  · exact isDecoded_ofNumber t

theorem isDecoded_of_mem_enter {c : CodePoint} : ∀ token ∈ (enter c).1, token.IsDecoded := by
  intro token htoken
  unfold enter at htoken
  repeat' split at htoken
  all_goals
    first
    | cases htoken; done
    | obtain rfl := List.mem_singleton.1 htoken; trivial

theorem isDecoded_of_mem_step (mode : Mode) (c : CodePoint) :
    ∀ token ∈ (step mode c).1, token.IsDecoded := by
  intro token htoken
  unfold step at htoken
  split at htoken
  · exact isDecoded_of_mem_enter token htoken
  · split at htoken
    · cases htoken
    · rcases List.mem_cons.1 htoken with rfl | htoken
      · exact isDecoded_ofRun _
      · exact isDecoded_of_mem_enter token htoken
  all_goals
    repeat' split at htoken
    all_goals
      first
      | cases htoken; done
      | obtain rfl := List.mem_singleton.1 htoken; trivial

theorem isDecoded_of_mem_scan {mode : Mode} {t : Text} {token : JsonToken}
    (h : token ∈ scan mode t) : token.IsDecoded := by
  induction t generalizing mode with
  | nil =>
    cases mode with
    | run read =>
      obtain rfl := List.mem_singleton.1 h
      exact isDecoded_ofRun _
    | between => cases h
    | string | escape | unit =>
      obtain rfl := List.mem_singleton.1 h
      trivial
  | cons c t ih =>
    have hstep := isDecoded_of_mem_step mode c token
    unfold scan at h
    split at h
    · rename_i heq
      rw [heq] at hstep
      rcases List.mem_append.1 h with hmem | hmem
      · exact hstep hmem
      · exact ih hmem
    · rename_i heq
      rw [heq] at hstep
      exact hstep h

end JsonToken

/-! ### The reader -/

namespace Json

open JsonToken

/-- Members of an object, all of them read. -/
structure IsDecodedEntries (entries : Entries Json) : Prop where
  nodup : entries.keys.Nodup
  values : ∀ e ∈ entries, e.2.IsDecoded

theorem IsDecodedEntries.insert {entries : Entries Json} {v : Json} (h : IsDecodedEntries entries)
    (hv : v.IsDecoded) (key : Text) : IsDecodedEntries (entries.insert key v) where
  nodup := Entries.nodup_keys_insert h.nodup
  values := by
    intro e he
    rcases Entries.mem_of_mem_insert he with rfl | he
    · exact hv
    · exact h.values e he

/-- What stands in an open array or object has been read. -/
inductive Frame.IsDecoded : Frame → Prop
  | array {items : List Json} : (∀ v ∈ items, v.IsDecoded) → IsDecoded (.array items)
  | object {entries : Entries Json} {key : Text} : IsDecodedEntries entries →
    IsDecoded (.object entries key)

/-- What the reader keeps has been read. -/
inductive Reading.IsDecoded : Reading → Prop
  | value {stack : List Frame} : (∀ f ∈ stack, f.IsDecoded) → IsDecoded (.value stack)
  | arrayStart {stack : List Frame} : (∀ f ∈ stack, f.IsDecoded) → IsDecoded (.arrayStart stack)
  | objectStart {stack : List Frame} : (∀ f ∈ stack, f.IsDecoded) → IsDecoded (.objectStart stack)
  | key {entries : Entries Json} {stack : List Frame} : IsDecodedEntries entries →
    (∀ f ∈ stack, f.IsDecoded) → IsDecoded (.key entries stack)
  | colon {entries : Entries Json} {key : Text} {stack : List Frame} : IsDecodedEntries entries →
    (∀ f ∈ stack, f.IsDecoded) → IsDecoded (.colon entries key stack)
  | after {v : Json} {stack : List Frame} : v.IsDecoded → (∀ f ∈ stack, f.IsDecoded) →
    IsDecoded (.after v stack)

theorem isDecoded_startValue {stack : List Frame} {token : JsonToken} {r : Reading}
    (hstack : ∀ f ∈ stack, f.IsDecoded) (htoken : token.IsDecoded)
    (h : startValue stack token = .ok r) : r.IsDecoded := by
  cases token with
  | openArray =>
    cases h
    exact .arrayStart hstack
  | openObject =>
    cases h
    exact .objectStart hstack
  | string t =>
    cases h
    exact .after (.string t) hstack
  | literal v =>
    cases h
    exact .after htoken hstack
  | closeArray | closeObject | comma | colon | tooLong | invalid => cases h

theorem Reading.IsDecoded.readToken {r r' : Reading} {token : JsonToken} (hr : r.IsDecoded)
    (htoken : token.IsDecoded) (h : readToken r token = .ok r') : r'.IsDecoded := by
  unfold Json.readToken at h
  split at h
  · cases hr with
    | value hstack => exact isDecoded_startValue hstack htoken h
  · cases h
    cases hr with
    | arrayStart hstack => exact .after (.array (by simp)) hstack
  · cases hr with
    | arrayStart hstack =>
      exact isDecoded_startValue (List.forall_mem_cons.2 ⟨.array (by simp), hstack⟩) htoken h
  · cases h
    cases hr with
    | objectStart hstack => exact .after (.object .nil (by simp)) hstack
  · cases h
    cases hr with
    | objectStart hstack => exact .colon ⟨.nil, by simp⟩ hstack
  · cases h
    cases hr with
    | key hentries hstack => exact .colon hentries hstack
  · cases h
    cases hr with
    | colon hentries hstack => exact .value (List.forall_mem_cons.2 ⟨.object hentries, hstack⟩)
  · cases h
    cases hr with
    | after hv hstack =>
      obtain ⟨⟨hitems⟩, hstack⟩ := List.forall_mem_cons.1 hstack
      exact .value (List.forall_mem_cons.2 ⟨.array (List.forall_mem_cons.2 ⟨hv, hitems⟩), hstack⟩)
  · cases h
    cases hr with
    | after hv hstack =>
      obtain ⟨⟨hitems⟩, hstack⟩ := List.forall_mem_cons.1 hstack
      refine .after (.array fun w hw => ?_) hstack
      exact List.forall_mem_cons.2 ⟨hv, hitems⟩ w (List.mem_reverse.1 hw)
  · cases h
    cases hr with
    | after hv hstack =>
      obtain ⟨⟨⟩ | ⟨hentries⟩, hstack⟩ := List.forall_mem_cons.1 hstack
      exact .key (hentries.insert hv _) hstack
  · cases h
    cases hr with
    | after hv hstack =>
      obtain ⟨⟨⟩ | ⟨hentries⟩, hstack⟩ := List.forall_mem_cons.1 hstack
      exact .after (.object (hentries.insert hv _).nodup (hentries.insert hv _).values) hstack
  · cases h

theorem Reading.IsDecoded.foldlM_readToken {r r' : Reading} {tokens : List JsonToken}
    (hr : r.IsDecoded) (htokens : ∀ token ∈ tokens, token.IsDecoded)
    (h : tokens.foldlM Json.readToken r = .ok r') : r'.IsDecoded := by
  induction tokens generalizing r with
  | nil =>
    cases h
    exact hr
  | cons token tokens ih =>
    rw [List.foldlM_cons] at h
    obtain ⟨next, hnext, h⟩ := Except.bind_eq_ok.1 h
    have htoken := htokens token List.mem_cons_self
    exact ih (hr.readToken htoken hnext)
      (fun t ht => htokens t (List.mem_cons_of_mem _ ht)) h

theorem startValue_eq_tooLong_iff {stack : List Frame} {token : JsonToken} {n : Nat} :
    startValue stack token = .error (.tooLong n) ↔ token = .tooLong n := by
  cases token <;> simp [startValue]

/-- Only where a value may begin is a number looked at. -/
theorem readToken_eq_tooLong_iff {r : Reading} {token : JsonToken} {n : Nat} :
    readToken r token = .error (.tooLong n) ↔
      token = .tooLong n ∧ ∃ stack, AwaitsValue r stack := by
  constructor
  · intro h
    unfold readToken at h
    split at h
    case h_1 => exact ⟨startValue_eq_tooLong_iff.1 h, _, .value _⟩
    case h_3 => exact ⟨startValue_eq_tooLong_iff.1 h, _, .arrayStart _⟩
    all_goals cases h
  · rintro ⟨rfl, stack, hr⟩
    cases hr <;> rfl

/-- Reading stops at a number that is too long if it has come there and awaits a value. -/
theorem foldlM_readToken_eq_tooLong_iff {r : Reading} {tokens : List JsonToken} {n : Nat} :
    tokens.foldlM readToken r = .error (.tooLong n) ↔
      ∃ before after state stack, tokens = before ++ .tooLong n :: after ∧
        before.foldlM readToken r = .ok state ∧ AwaitsValue state stack := by
  constructor
  · intro h
    induction tokens generalizing r with
    | nil => cases h
    | cons token tokens ih =>
      rw [List.foldlM_cons] at h
      cases hnext : readToken r token with
      | error e =>
        rw [hnext] at h
        cases h
        obtain ⟨rfl, stack, hr⟩ := readToken_eq_tooLong_iff.1 hnext
        exact ⟨[], tokens, r, stack, rfl, rfl, hr⟩
      | ok next =>
        rw [hnext] at h
        obtain ⟨before, after, state, stack, rfl, hbefore, hstate⟩ := ih h
        refine ⟨token :: before, after, state, stack, rfl, ?_, hstate⟩
        rw [List.foldlM_cons, hnext]
        exact hbefore
  · rintro ⟨before, after, state, stack, rfl, hbefore, hstate⟩
    have hstop : readToken state (.tooLong n) = .error (.tooLong n) :=
      readToken_eq_tooLong_iff.2 ⟨rfl, stack, hstate⟩
    rw [List.foldlM_append, hbefore]
    exact congrArg (· >>= after.foldlM readToken) hstop

theorem read_eq_tooLong_iff_readFrom {t : Text} {n : Nat} :
    read t = .error (.tooLong n) ↔ readFrom (.value []) t = .error (.tooLong n) := by
  unfold read ofTokens readFrom
  cases hfold : (ofText t).foldlM readToken (.value []) with
  | error e => simp [bind, Except.bind]
  | ok r =>
    dsimp only [bind, Except.bind]
    split <;> simp [pure, Except.pure, throw, throwThe, MonadExceptOf.throw]

theorem isDecoded_of_mem_ofText (t : Text) : ∀ token ∈ ofText t, token.IsDecoded :=
  fun _ => isDecoded_of_mem_scan

/-- A document is refused for the length of a number only if the number has more digits than are
accepted. -/
theorem digitLimit_lt_of_read {t : Text} {digits : Nat} (h : read t = .error (.tooLong digits)) :
    digitLimit < digits := by
  rw [read_eq_tooLong_iff_readFrom, readFrom, foldlM_readToken_eq_tooLong_iff] at h
  obtain ⟨before, after, -, -, htokens, -⟩ := h
  exact isDecoded_of_mem_ofText t (.tooLong digits) (by simp [htokens])

/-- Every document that is read is one that a reader can come to. -/
theorem isDecoded_of_read {t : Text} {v : Json} (h : read t = .ok v) : v.IsDecoded := by
  obtain ⟨r, hr, h⟩ := Except.bind_eq_ok.1 h
  have htokens := isDecoded_of_mem_ofText t
  have hdecoded := Reading.IsDecoded.foldlM_readToken (.value (by simp)) htokens hr
  split at h
  · cases h
    cases hdecoded with
    | after hv _ => exact hv
  · cases h

end Json

end SchemaQuery
