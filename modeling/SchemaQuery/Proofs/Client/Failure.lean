import SchemaQuery.Proofs.Client
import SchemaQuery.Proofs.Json.Decoded

/-!
# Calls that fail

A call makes one request, which can be sent, and comes to one of the outcomes in `Http.Outcome`. An
answer with an object is the result. All other outcomes but three are errors of the service, which
have a status just when the server has answered with one. The three are a connection that is cut, a
body that is not well formed in the encoding that it announces, and a body with a whole number of
too many digits.
-/

namespace SchemaQuery

namespace Http.Outcome

/-- The server has answered with a text. -/
def Holds (o : Outcome) (t : Text) : Prop :=
  ∃ bytes, o = .body bytes ∧ Encoding.decode? bytes = some t

def Answers (o : Outcome) (v : Json) : Prop :=
  ∃ t entries, o.Holds t ∧ Json.read t = .ok v ∧ v = .object entries

/-- What went wrong is an error of the service. -/
inductive FailsWith : Outcome → ApiError → Prop
  | status (code : Int) : FailsWith (.status code) (.status code)
  | unreachable : FailsWith .unreachable .unreachable
  | timedOut : FailsWith .timedOut .timedOut
  | notJson {o : Outcome} {t : Text} : o.Holds t → Json.read t = .error .malformed →
    FailsWith o .notJson
  | notObject {o : Outcome} {t : Text} {v : Json} : o.Holds t → Json.read t = .ok v →
    (∀ entries, v ≠ .object entries) → FailsWith o .notObject

/-- What went wrong is told as it is, and not as an error of the service. -/
inductive Escapes : Outcome → CallError → Prop
  | reset (reason : Text) : Escapes (.reset reason) (.reset reason)
  | undecodable {bytes : Bytes} : Encoding.decode? bytes = none →
    Escapes (.body bytes) .undecodable
  | tooLong {o : Outcome} {t : Text} {digits : Nat} : o.Holds t →
    Json.read t = .error (.tooLong digits) → JsonToken.digitLimit < digits →
    Escapes o (.tooLong digits)

/-- The status with which the server has answered, if it was an error. -/
def status? : Outcome → Option Int
  | .status code => some code
  | _ => none

/-- An error of the service has a status just when the server has answered with one. -/
theorem FailsWith.status?_eq {o : Outcome} {e : ApiError} (h : o.FailsWith e) :
    e.status? = o.status? := by
  cases h with
  | status code => rfl
  | unreachable | timedOut => rfl
  | notJson hholds _ | notObject hholds _ _ =>
    obtain ⟨bytes, rfl, -⟩ := hholds
    rfl

theorem Escapes.ne_api {o : Outcome} {e : CallError} (h : o.Escapes e) (a : ApiError) :
    e ≠ .api a := by
  rintro rfl
  cases h

end Http.Outcome

namespace ApiConfig

open Http (Outcome)

variable {o : Outcome} {t : Text} {v : Json} {e : CallError} {a : ApiError}

theorem resultOf_of_answers (h : o.Answers v) : resultOf o = .ok v := by
  obtain ⟨t, entries, ⟨bytes, rfl, hdecode⟩, hread, rfl⟩ := h
  simp only [resultOf, hdecode, hread]

theorem resultOf_of_failsWith (h : o.FailsWith a) : resultOf o = .error (.api a) := by
  cases h with
  | status code => rfl
  | unreachable => rfl
  | timedOut => rfl
  | notJson hholds hread =>
    obtain ⟨bytes, rfl, hdecode⟩ := hholds
    simp only [resultOf, hdecode, hread]
  | @notObject _ _ v hholds hread hobject =>
    obtain ⟨bytes, rfl, hdecode⟩ := hholds
    cases v with
    | object entries => exact absurd rfl (hobject entries)
    | null | bool | int | float | string | array => simp only [resultOf, hdecode, hread]

theorem resultOf_of_escapes (h : o.Escapes e) : resultOf o = .error e := by
  cases h with
  | reset reason => rfl
  | undecodable hdecode => simp only [resultOf, hdecode]
  | tooLong hholds hread _ =>
    obtain ⟨bytes, rfl, hdecode⟩ := hholds
    simp only [resultOf, hdecode, hread]

theorem answers_or_failsWith_or_escapes (o : Outcome) :
    (∃ v, o.Answers v) ∨ (∃ a, o.FailsWith a) ∨ ∃ e, o.Escapes e := by
  cases o with
  | status code => exact .inr (.inl ⟨_, .status code⟩)
  | unreachable => exact .inr (.inl ⟨_, .unreachable⟩)
  | timedOut => exact .inr (.inl ⟨_, .timedOut⟩)
  | reset reason => exact .inr (.inr ⟨_, .reset reason⟩)
  | body bytes =>
    cases hdecode : Encoding.decode? bytes with
    | none => exact .inr (.inr ⟨_, .undecodable hdecode⟩)
    | some t =>
      have hholds : (Outcome.body bytes).Holds t := ⟨bytes, rfl, hdecode⟩
      cases hread : Json.read t with
      | error e =>
        cases e with
        | malformed => exact .inr (.inl ⟨_, .notJson hholds hread⟩)
        | tooLong digits =>
          exact .inr (.inr ⟨_, .tooLong hholds hread (Json.digitLimit_lt_of_read hread)⟩)
      | ok v =>
        by_cases hobject : ∃ entries, v = .object entries
        · obtain ⟨entries, rfl⟩ := hobject
          exact .inl ⟨_, t, entries, hholds, hread, rfl⟩
        · exact .inr (.inl ⟨_, .notObject hholds hread (not_exists.1 hobject)⟩)

theorem resultOf_eq_ok_iff : resultOf o = .ok v ↔ o.Answers v := by
  constructor
  · intro h
    rcases answers_or_failsWith_or_escapes o with ⟨w, hw⟩ | ⟨a, ha⟩ | ⟨e, he⟩
    · rw [resultOf_of_answers hw] at h
      cases h
      exact hw
    · rw [resultOf_of_failsWith ha] at h
      cases h
    · rw [resultOf_of_escapes he] at h
      cases h
  · exact resultOf_of_answers

theorem resultOf_eq_api_iff : resultOf o = .error (.api a) ↔ o.FailsWith a := by
  constructor
  · intro h
    rcases answers_or_failsWith_or_escapes o with ⟨w, hw⟩ | ⟨b, hb⟩ | ⟨e, he⟩
    · rw [resultOf_of_answers hw] at h
      cases h
    · rw [resultOf_of_failsWith hb] at h
      cases h
      exact hb
    · rw [resultOf_of_escapes he] at h
      exact absurd (Except.error.inj h) (he.ne_api a)
  · exact resultOf_of_failsWith

theorem resultOf_eq_error_iff (h : ∀ a, e ≠ .api a) : resultOf o = .error e ↔ o.Escapes e := by
  constructor
  · intro hresult
    rcases answers_or_failsWith_or_escapes o with ⟨w, hw⟩ | ⟨a, ha⟩ | ⟨d, hd⟩
    · rw [resultOf_of_answers hw] at hresult
      cases hresult
    · rw [resultOf_of_failsWith ha] at hresult
      exact absurd (Except.error.inj hresult).symm (h a)
    · rw [resultOf_of_escapes hd] at hresult
      cases hresult
      exact hd
  · exact resultOf_of_escapes

/-! ### The calls -/

/-- What the service is asked about a database. -/
inductive Question where
  | retrieve
  | query (body : Json)

variable {c : ApiConfig} {server : Http.Server} {id : Text}

/-- Puts a question about a database. -/
def ask (c : ApiConfig) (server : Http.Server) (id : Text) : Question → Exchange
  | .retrieve => c.retrieve server id
  | .query body => c.query server id body

def requestOf (c : ApiConfig) (segment : Text) : Question → Http.Request
  | .retrieve => c.retrieveRequest segment
  | .query body => c.queryRequest segment (if body.isAbsent then .object [] else body)

/-- A call ends with an object, or with an error of the service that has the status of the answer.
-/
def IsSettled (result : Except CallError Json) (o : Outcome) : Prop :=
  (∃ entries, result = .ok (.object entries)) ∨
    ∃ a, result = .error (.api a) ∧ a.status? = o.status?

theorem ask_of_segment? {segment : Text} (hbase : Http.IsWeb c.apiBase)
    (hsegment : Http.segment? id = some segment) (server : Http.Server) (question : Question) :
    c.ask server id question =
      ⟨some (c.requestOf segment question), resultOf (server (c.requestOf segment question))⟩ := by
  cases question with
  | retrieve => exact retrieve_of_isWeb hbase hsegment
  | query body => exact query_of_isWeb hbase hsegment body

theorem isSettled_resultOf_iff : IsSettled (resultOf o) o ↔ ¬∃ e, o.Escapes e := by
  constructor
  · rintro hsettled ⟨e, he⟩
    rw [resultOf_of_escapes he] at hsettled
    rcases hsettled with ⟨entries, h⟩ | ⟨a, h, -⟩
    · cases h
    · exact he.ne_api a (Except.error.inj h)
  · intro hnone
    rcases answers_or_failsWith_or_escapes o with ⟨v, hv⟩ | ⟨a, ha⟩ | hescapes
    · obtain ⟨t, entries, -, -, rfl⟩ := id hv
      exact .inl ⟨entries, resultOf_of_answers hv⟩
    · exact .inr ⟨a, resultOf_of_failsWith ha, ha.status?_eq⟩
    · exact absurd hescapes hnone

/-- At an address of the web, a call about a database whose id has bytes makes one request to the
address of the database. It ends with an object or with an error of the service that has the status
of the answer, unless the connection is cut or the body is undecodable or has a whole number of too
many digits; then it ends with an error that is none of the service. -/
theorem isSettled_ask_iff (hbase : Http.IsWeb c.apiBase) (hid : id.isScalar = true)
    (server : Http.Server) (question : Question) :
    ∃ segment request, Http.segment? id = some segment ∧ request = c.requestOf segment question ∧
      (c.ask server id question).request = some request ∧
      (∀ v, (c.ask server id question).result = .ok v ↔ (server request).Answers v) ∧
      (∀ a, (c.ask server id question).result = .error (.api a) ↔ (server request).FailsWith a) ∧
      (∀ e, (∀ a, e ≠ .api a) →
        ((c.ask server id question).result = .error e ↔ (server request).Escapes e)) ∧
      (IsSettled (c.ask server id question).result (server request) ↔
        ¬∃ e, (server request).Escapes e) := by
  obtain ⟨segment, hsegment⟩ := Http.exists_segment? hid
  refine ⟨segment, _, hsegment, rfl, ?_⟩
  rw [ask_of_segment? hbase hsegment]
  refine ⟨rfl, ?_, ?_, ?_, ?_⟩
  · intro v
    exact resultOf_eq_ok_iff
  · intro a
    exact resultOf_eq_api_iff
  · intro e he
    exact resultOf_eq_error_iff he
  · exact isSettled_resultOf_iff

def webService : ApiConfig := ⟨"key", "https://db.test/v1/", "2022-06-28", .whole 10⟩

theorem isWeb_webService : Http.IsWeb webService.apiBase :=
  ⟨"https", "//db.test/v1/", by rfl, .inr (by rfl)⟩

/-- The object arrives with two bytes for each of its code points. -/
theorem isSettled_ask_webService : ∃ request,
    (webService.ask (fun _ => .body [0x7B, 0x00, 0x7D, 0x00]) "é" .retrieve).request =
        some request ∧
      request.url = Text.ofString "https://db.test/v1/databases/%C3%A9" ∧
      (webService.ask (fun _ => .body [0x7B, 0x00, 0x7D, 0x00]) "é" .retrieve).result =
        .ok (.object []) := by
  obtain ⟨segment, request, hsegment, hrequest, hmade, hok, -, -, -⟩ :=
    isSettled_ask_iff isWeb_webService (by rfl : Text.isScalar "é" = true)
      (fun _ => .body [0x7B, 0x00, 0x7D, 0x00]) .retrieve
  have hwritten : Http.segment? "é" = some "%C3%A9" := by rfl
  have hdetect : Encoding.detect [0x7B, 0x00, 0x7D, 0x00] =
      (.utf16 .littleEndian, [0x7B, 0x00, 0x7D, 0x00]) := rfl
  have hdecode : Encoding.decode? [0x7B, 0x00, 0x7D, 0x00] = some "\x7b\x7d" := by
    simp only [Encoding.decode?, hdetect]
    decide +kernel
  have hread : Json.read "\x7b\x7d" = .ok (.object []) := by rfl
  rw [hwritten] at hsegment
  cases hsegment
  refine ⟨request, hmade, ?_, (hok _).2 ⟨_, [], ⟨_, rfl, hdecode⟩, hread, rfl⟩⟩
  rw [hrequest]
  rfl

/-- A connection that is cut is no error of the service. -/
theorem not_isSettled_ask_reset :
    Http.IsWeb webService.apiBase ∧ Text.isScalar "x" = true ∧
      (webService.ask (fun _ => .reset "cut") "x" .retrieve).result = .error (.reset "cut") ∧
      ∀ o, ¬IsSettled (webService.ask (fun _ => .reset "cut") "x" .retrieve).result o := by
  have hresult : (webService.ask (fun _ => .reset "cut") "x" .retrieve).result =
      .error (.reset "cut") := by
    obtain ⟨segment, hsegment⟩ := Http.exists_segment? (by rfl : Text.isScalar "x" = true)
    rw [ask_of_segment? isWeb_webService hsegment]
    rfl
  refine ⟨isWeb_webService, by rfl, hresult, ?_⟩
  intro o hsettled
  rw [hresult] at hsettled
  rcases hsettled with ⟨entries, h⟩ | ⟨a, h, -⟩
  · cases h
  · cases h

end ApiConfig

end SchemaQuery
