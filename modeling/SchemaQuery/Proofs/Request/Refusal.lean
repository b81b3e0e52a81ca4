import SchemaQuery.Proofs.Json.LongIntegers
import SchemaQuery.Proofs.Request.Reader

/-!
# Texts that are no requests

A text that is no request is said to be none: it is no JSON document, or its document has issues.
The one exception are integers that are too long, for which a text is refused as soon as the reader
comes to one.
-/

namespace SchemaQuery.Request

open Json (ReachesInteger)
open JsonToken

variable {result : Except RequestError QueryRequest}

/-- A request was read, or the text is said to be none. -/
inductive IsSettled : Except RequestError QueryRequest → Prop
  | request (r : QueryRequest) : IsSettled (.ok r)
  | notJson : IsSettled (.error .notJson)
  | invalid (issues : List Issue) : IsSettled (.error (.invalid issues))

theorem isSettled_iff : IsSettled result ↔ ∀ n, result ≠ .error (.tooLong n) := by
  constructor
  · intro h n
    cases h <;> simp
  · intro h
    cases result with
    | ok r => exact .request r
    | error e =>
      cases e with
      | notJson => exact .notJson
      | tooLong n => exact absurd rfl (h n)
      | invalid issues => exact .invalid issues

theorem read_eq_tooLong_iff {t : Text} {n : Nat} :
    read t = .error (.tooLong n) ↔ digitLimit < n ∧ ReachesInteger (unfenced t) n := by
  rw [← Json.read_eq_tooLong_iff]
  unfold read
  cases Json.read (unfenced t) with
  | error e => cases e <;> simp
  | ok document =>
    simp only [reduceCtorEq, iff_false]
    cases check document <;> simp

/-- Reading settles exactly when every integer that the reader comes to has few enough digits. What
else comes of a text is its refusal for the length of such an integer. -/
theorem isSettled_read_iff (t : Text) :
    (IsSettled (read t) ↔ ∀ n, ReachesInteger (unfenced t) n → n ≤ digitLimit) ∧
      ∀ n, read t = .error (.tooLong n) ↔ digitLimit < n ∧ ReachesInteger (unfenced t) n := by
  refine ⟨?_, fun n => read_eq_tooLong_iff⟩
  rw [isSettled_iff]
  apply forall_congr'
  intro n
  rw [Ne, read_eq_tooLong_iff, not_and', Nat.not_lt]

/-! ### An integer alone -/

theorem isBlank_of_isDigit {c : Char} (h : c.isDigit = true) :
    CodePoint.isBlank (.scalar c) = false := by
  have hlow : 48 ≤ c.toNat := (Char.isDigit_iff_toNat.1 h).1
  have hhigh : c.toNat ≤ 57 := (Char.isDigit_iff_toNat.1 h).2
  have hvalue : (CodePoint.scalar c).value = c.toNat := rfl
  rw [Bool.eq_false_iff]
  intro hblank
  simp only [CodePoint.isBlank, CodePoint.isWhiteSpace, Bool.or_eq_true, Bool.and_eq_true,
    decide_eq_true_iff, beq_iff_eq] at hblank
  omega

theorem unfenced_digits {cs : List Char} (h : ∀ c ∈ cs, c.isDigit = true) :
    unfenced (cs.map .scalar) = cs.map .scalar := by
  have hblank : ∀ c ∈ cs.map CodePoint.scalar, c.isBlank = false := by
    intro c hc
    obtain ⟨d, hd, rfl⟩ := List.mem_map.1 hc
    exact isBlank_of_isDigit (h d hd)
  apply unfenced_eq_self
  · rw [Text.strippedBlanks, Text.trim_eq_self_iff]
    exact ⟨fun c hc => hblank c (List.mem_of_mem_head? hc),
      fun c hc => hblank c (List.mem_of_mem_getLast? hc)⟩
  · rintro c hc rfl
    obtain ⟨d, hd, ⟨⟩⟩ := List.mem_map.1 (List.mem_of_mem_head? hc)
    cases h _ hd

/-- Digits are refused when there are too many of them. -/
theorem read_digits_eq_tooLong {whole : List Char} (h : IsWhole whole)
    (hlimit : digitLimit < whole.length) :
    read (whole.map .scalar) = .error (.tooLong whole.length) := by
  refine read_eq_tooLong_iff.2 ⟨hlimit, ?_⟩
  rw [unfenced_digits h.isDigit]
  refine ⟨[], whole.map .scalar, .value [], [], rfl, rfl, .value [], ?_⟩
  have hends : EndsNumber [] := endsNumber_iff.2 ⟨by simp, rfl, rfl⟩
  simpa [signText] using BeginsInteger.integer false h rfl hends

/-- A text of one digit more than are accepted. -/
def longInteger : Text := (List.replicate (digitLimit + 1) '1').map .scalar

theorem not_isSettled_read_longInteger : ¬ IsSettled (read longInteger) := by
  have hwhole : IsWhole (List.replicate (digitLimit + 1) '1') := by
    refine ⟨by simp, ?_, Or.inr (by simp [List.head?_replicate])⟩
    intro c hc
    rw [List.eq_of_mem_replicate hc]
    rfl
  have hread := read_digits_eq_tooLong hwhole (by simp)
  intro hsettled
  exact isSettled_iff.1 hsettled _ hread

end SchemaQuery.Request
