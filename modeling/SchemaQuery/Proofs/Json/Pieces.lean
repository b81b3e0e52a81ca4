import SchemaQuery.Proofs.Json.RoundTrip
import SchemaQuery.Proofs.Outcome
import SchemaQuery.Proofs.Text.Trim

/-!
# Pieces of texts

A text is cut into runs, marks and strings, and the tokens are the pieces one by one. Where a value
may begin, the text in front ends with a whole piece. So it has the same tokens with anything behind
it.
-/

namespace SchemaQuery

namespace JsonToken

/-- A text is cut piece by piece. What does not begin with a piece ends the row. -/
inductive Cuts : Text → List JsonToken → Prop
  | nil : Cuts [] []
  | space {c : CodePoint} {t : Text} {tokens : List JsonToken} : isSpace c = true →
    Cuts t tokens → Cuts (c :: t) tokens
  | run {s t : Text} {tokens : List JsonToken} : s ≠ [] → (∀ c ∈ s, isRun c = true) →
    EndsRun t → Cuts t tokens → Cuts (s ++ t) (ofRun s :: tokens)
  /-- Marks and strings end where they end, whatever stands behind them. -/
  | piece {s t : Text} {token : JsonToken} {tokens : List JsonToken} :
    (∀ n, token ≠ tooLong n) →
    (∀ rest, scan .between (s ++ rest) = token :: scan .between rest) → Cuts t tokens →
    Cuts (s ++ t) (token :: tokens)
  | stop {t : Text} : scan .between t = [invalid] → Cuts t [invalid]

theorem Cuts.ofText_eq {t : Text} {tokens : List JsonToken} (h : Cuts t tokens) :
    ofText t = tokens := by
  unfold ofText
  induction h with
  | nil => rfl
  | space hc _ ih => rw [scan_space hc, ih]
  | run hne hs ht _ ih => rw [scan_run hne hs ht, ih]
  | piece _ hpiece _ ih => rw [hpiece, ih]
  | stop hstop => exact hstop

/-- The automaton stands inside of a string. -/
def Mode.isInside : Mode → Bool
  | .between | .run _ => false
  | .string _ | .escape _ | .unit _ _ => true

/-- Inside of a string, a code point is refused, ends the string or leaves the automaton inside. -/
theorem step_inside {mode : Mode} (h : mode.isInside = true) (c : CodePoint) :
    step mode c = ([invalid], none) ∨ (∃ t, step mode c = ([string t], some .between)) ∨
      ∃ next : Mode, next.isInside = true ∧ step mode c = ([], some next) := by
  cases mode with
  | between | run => cases h
  | string read =>
    simp only [step]
    split
    · exact Or.inr (Or.inl ⟨_, rfl⟩)
    split
    · exact Or.inr (Or.inr ⟨.escape read, rfl, rfl⟩)
    split
    · exact Or.inl rfl
    · exact Or.inr (Or.inr ⟨.string _, rfl, rfl⟩)
  | escape read =>
    simp only [step]
    split
    · exact Or.inr (Or.inr ⟨.unit read [], rfl, rfl⟩)
    split
    · exact Or.inr (Or.inr ⟨.string _, rfl, rfl⟩)
    · exact Or.inl rfl
  | unit read digits =>
    simp only [step]
    split
    · exact Or.inl rfl
    split
    · exact Or.inr (Or.inr ⟨.string _, rfl, rfl⟩)
    · exact Or.inr (Or.inr ⟨.unit read _, rfl, rfl⟩)

/-- A string ends somewhere, or the text ends in it or is refused there. -/
theorem scan_inside {mode : Mode} (h : mode.isInside = true) (t : Text) :
    scan mode t = [invalid] ∨ ∃ s u x, t = s ++ u ∧
      ∀ rest, scan mode (s ++ rest) = string x :: scan .between rest := by
  induction t generalizing mode with
  | nil =>
    left
    cases mode with
    | between | run => cases h
    | string | escape | unit => rfl
  | cons c t ih =>
    rcases step_inside h c with hstep | ⟨x, hstep⟩ | ⟨next, hnext, hstep⟩
    · left
      rw [scan, hstep]
    · right
      refine ⟨[c], t, x, rfl, fun rest => ?_⟩
      rw [List.singleton_append, scan, hstep]
      rfl
    · rcases ih hnext with hrest | ⟨s, u, x, rfl, hstring⟩
      · left
        rw [scan, hstep]
        exact hrest
      · right
        refine ⟨c :: s, u, x, rfl, fun rest => ?_⟩
        rw [List.cons_append, scan, hstep]
        exact hstring rest

/-- What can stand between runs and space: a quotation mark, another mark, or nothing that fits. -/
theorem enter_cases {c : CodePoint} (hspace : isSpace c = false) (hrun : isRun c = false) :
    enter c = ([invalid], none) ∨ enter c = ([], some (.string [])) ∨
      ∃ token, (∀ n, token ≠ tooLong n) ∧ enter c = ([token], some .between) := by
  unfold enter
  rw [if_neg (by simp [hspace]), if_neg (by simp [hrun])]
  split
  · exact Or.inr (Or.inl rfl)
  all_goals
    first
    | exact Or.inl rfl
    | refine Or.inr (Or.inr ⟨_, ?_, rfl⟩)
      simp

theorem exists_cuts (t : Text) : ∃ tokens, Cuts t tokens := by
  induction hlength : t.length using Nat.strongRecOn generalizing t with
  | _ length ih =>
    cases t with
    | nil => exact ⟨[], .nil⟩
    | cons c t =>
      have hshorter : t.length < length := by
        rw [← hlength]
        exact Nat.lt_succ_self _
      cases hspace : isSpace c with
      | true =>
        obtain ⟨tokens, htokens⟩ := ih t.length hshorter t rfl
        exact ⟨tokens, .space hspace htokens⟩
      | false =>
        cases hrun : isRun c with
        | true =>
          have hdrop := (@List.dropWhile_suffix _ t isRun).length_le
          obtain ⟨tokens, htokens⟩ := ih _ (Nat.lt_of_le_of_lt hdrop hshorter) _ rfl
          have hsplit : c :: t = (c :: t.takeWhile isRun) ++ t.dropWhile isRun := by
            rw [List.cons_append, List.takeWhile_append_dropWhile]
          rw [hsplit]
          refine ⟨_, .run (List.cons_ne_nil _ _) ?_ ?_ htokens⟩
          · intro d hd
            rcases List.mem_cons.1 hd with rfl | hd
            · exact hrun
            · exact List.mem_takeWhile_imp hd
          · exact fun d => Text.eq_false_of_mem_head?_dropWhile
        | false =>
          rcases enter_cases hspace hrun with henter | henter | ⟨token, htoken, henter⟩
          · refine ⟨[invalid], .stop ?_⟩
            rw [scan, step, henter]
          · rcases @scan_inside (.string []) rfl t with hstop | ⟨s, u, x, rfl, hstring⟩
            · refine ⟨[invalid], .stop ?_⟩
              rw [scan, step, henter]
              exact hstop
            · obtain ⟨tokens, htokens⟩ := ih u.length (by simp at hshorter; omega) u rfl
              refine ⟨string x :: tokens, @Cuts.piece (c :: s) u _ _ (by simp) ?_ htokens⟩
              intro rest
              rw [List.cons_append, scan, step, henter]
              exact hstring rest
          · obtain ⟨tokens, htokens⟩ := ih t.length hshorter t rfl
            refine ⟨token :: tokens, @Cuts.piece [c] t _ _ htoken ?_ htokens⟩
            intro rest
            rw [List.singleton_append, scan, step, henter]
            rfl

theorem cuts_ofText (t : Text) : Cuts t (ofText t) := by
  obtain ⟨tokens, htokens⟩ := exists_cuts t
  rw [htokens.ofText_eq]
  exact htokens

theorem ofRun_cases (t : Text) :
    (∃ v, ofRun t = literal v) ∨ (∃ n, ofRun t = tooLong n) ∨ ofRun t = invalid := by
  generalize htoken : ofRun t = token
  unfold ofRun ofNumber at htoken
  simp only at htoken
  repeat' split at htoken
  all_goals
    subst htoken
    simp

end JsonToken

/-! ### In front of a value -/

namespace Json

open JsonToken

theorem AwaitsValue.eq_openArray {state : Reading} {above stack : List Frame} {token : JsonToken}
    (hstate : AwaitsValue state stack) (h : startValue above token = .ok state) :
    token = .openArray := by
  unfold startValue at h
  split at h
  case h_1 => rfl
  case h_5 => cases h
  case h_6 => cases h
  all_goals
    cases h
    cases hstate

/-- Only an opening bracket, a comma and a colon can stand in front of a value. -/
theorem AwaitsValue.token_cases {r state : Reading} {stack : List Frame} {token : JsonToken}
    (hstate : AwaitsValue state stack) (h : readToken r token = .ok state) :
    token = .openArray ∨ token = .comma ∨ token = .colon := by
  unfold readToken at h
  split at h
  case h_1 => exact Or.inl (hstate.eq_openArray h)
  case h_3 => exact Or.inl (hstate.eq_openArray h)
  case h_7 => exact Or.inr (Or.inr rfl)
  case h_8 => exact Or.inr (Or.inl rfl)
  case h_12 => cases h
  all_goals
    cases h
    cases hstate

/-- Where a value may begin, a token ends. -/
theorem ofText_append {lead : Text} {r state : Reading} {stack : List Frame}
    (h : readFrom r lead = .ok state) (hstate : AwaitsValue state stack) (rest : Text) :
    ofText (lead ++ rest) = ofText lead ++ ofText rest := by
  have hcuts := cuts_ofText lead
  unfold readFrom at h
  generalize ofText lead = tokens at h hcuts
  induction hcuts generalizing r with
  | nil => rfl
  | @space c t tokens hc _ ih =>
    rw [← ih h]
    exact scan_space hc (t ++ rest)
  | @run s t tokens hne hs ht hcuts ih =>
    rw [List.foldlM_cons] at h
    obtain ⟨next, hnext, h⟩ := Except.bind_eq_ok.1 h
    cases t with
    | nil =>
      obtain rfl : [] = tokens := hcuts.ofText_eq
      cases h
      rcases ofRun_cases s with ⟨v, hs⟩ | ⟨n, hs⟩ | hs
      all_goals
        have htoken := hstate.token_cases hnext
        simp [hs] at htoken
    | cons c t =>
      rw [List.cons_append, ← ih h, List.append_assoc]
      exact scan_run hne hs (endsRun_cons (ht c rfl) _)
  | @piece s t token tokens _ hpiece _ ih =>
    rw [List.foldlM_cons] at h
    obtain ⟨next, -, h⟩ := Except.bind_eq_ok.1 h
    rw [List.cons_append, ← ih h, List.append_assoc]
    exact hpiece (t ++ rest)
  | stop =>
    cases r with
    | after v stack => cases stack with
      | nil => cases h
      | cons f stack => cases f <;> cases h
    | _ => cases h

end Json

end SchemaQuery
