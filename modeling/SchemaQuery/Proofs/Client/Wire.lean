import SchemaQuery.Proofs.Client.Failure
import SchemaQuery.Proofs.Http.Segment
import SchemaQuery.Proofs.Json.Ascii

/-!
# What goes over the wire

The address of a call is the base address without its last slashes, and below it the database as one
segment, from which its id can be read back. So an id does not reach beyond its segment, and calls
about different databases have different addresses. The body of a query arrives as it was given; a
retrieval has none.
-/

namespace SchemaQuery.ApiConfig

variable {c : ApiConfig} {server : Http.Server} {id other segment segment' : Text}
  {question question' : Question} {request request' : Http.Request}

namespace Question

/-- A body that JSON can carry: its numbers are not too long and its strings have no surrogates. -/
def IsSendable : Question → Prop
  | retrieve => True
  | query body => body.IsDecoded ∧ body.IsScalar

def suffix : Question → Text
  | retrieve => []
  | query _ => "/query"

/-- The request is one for this question, and what it sends arrives as it was meant. -/
inductive IsCarriedBy : Question → Http.Request → Prop
  | retrieve {request : Http.Request} : request.method = .get → request.body = none →
    IsCarriedBy .retrieve request
  /-- The bytes are ASCII, and read as a document they are the body. -/
  | query {request : Http.Request} {body : Json} {data : Text} {bytes : Bytes} :
    request.method = .post → request.body = some data → Text.utf8? data = some bytes →
    (∀ b ∈ bytes, b < 0x80) → Text.ofUtf8? .refused bytes = some data →
    Json.read data = .ok (if body.isAbsent then .object [] else body) →
    IsCarriedBy (.query body) request

end Question

/-! ### The address -/

theorem url_requestOf (c : ApiConfig) (segment : Text) (question : Question) :
    (c.requestOf segment question).url =
      c.apiBase.trimRight (· = .scalar '/') ++ ("/databases/" ++ (segment ++ question.suffix)) := by
  cases question with
  | retrieve =>
    rw [Question.suffix, List.append_nil]
    rfl
  | query body =>
    rw [Question.suffix, ← List.append_assoc _ segment]
    rfl

/-- The segment ends where the next slash stands. -/
theorem takeWhile_segment (h : Http.IsSegment segment) (question : Question) :
    (segment ++ question.suffix).takeWhile (· ≠ .scalar '/') = segment := by
  have hplain : ∀ c ∈ segment, decide (c ≠ .scalar '/') = true := by
    intro c hc
    exact decide_eq_true (h.ne_mark (by decide) (by decide) hc)
  have hsuffix : question.suffix.takeWhile (· ≠ .scalar '/') = [] := by
    cases question <;> rfl
  rw [List.takeWhile_append_of_pos hplain, hsuffix, List.append_nil]

theorem eq_of_url_eq (h : Http.IsSegment segment) (h' : Http.IsSegment segment')
    (hurl : (c.requestOf segment question).url = (c.requestOf segment' question').url) :
    segment = segment' := by
  rw [url_requestOf, url_requestOf] at hurl
  have hrest := List.append_cancel_left (List.append_cancel_left hurl)
  rw [← takeWhile_segment h question, hrest, takeWhile_segment h' question']

theorem exists_segment?_of_request (hbase : Http.IsWeb c.apiBase)
    (h : (c.ask server id question).request = some request) :
    ∃ segment, Http.segment? id = some segment ∧ request = c.requestOf segment question := by
  cases hsegment : Http.segment? id with
  | none =>
    have hnone : c.ask server id question = ⟨none, .error .badId⟩ := by
      cases question with
      | retrieve =>
        unfold ask retrieve databasePath?
        rw [hsegment]
        rfl
      | query body => exact query_of_segment?_eq_none hsegment
    rw [hnone] at h
    cases h
  | some segment =>
    rw [ask_of_segment? hbase hsegment] at h
    exact ⟨segment, rfl, (Option.some.inj h).symm⟩

/-- Calls at one address are about one database. -/
theorem eq_of_request_url_eq {server' : Http.Server} (hbase : Http.IsWeb c.apiBase)
    (h : (c.ask server id question).request = some request)
    (h' : (c.ask server' other question').request = some request')
    (hurl : request'.url = request.url) : other = id := by
  obtain ⟨segment, hsegment, rfl⟩ := exists_segment?_of_request hbase h
  obtain ⟨segment', hsegment', rfl⟩ := exists_segment?_of_request hbase h'
  have hsame := eq_of_url_eq (Http.isSegment_of_segment? hsegment')
    (Http.isSegment_of_segment? hsegment) hurl
  have hid := Http.unescape?_of_segment? hsegment
  rw [← hsame, Http.unescape?_of_segment? hsegment'] at hid
  exact Option.some.inj hid

/-! ### The body -/

theorem isCarriedBy_requestOf (c : ApiConfig) (segment : Text) (h : question.IsSendable) :
    question.IsCarriedBy (c.requestOf segment question) := by
  cases question with
  | retrieve => exact .retrieve rfl rfl
  | query body =>
    obtain ⟨hdecoded, hscalar⟩ := h
    have hsent : (if body.isAbsent then Json.object [] else body).IsDecoded ∧
        (if body.isAbsent then Json.object [] else body).IsScalar := by
      split
      · exact ⟨.object List.nodup_nil (by simp), .object (by simp) (by simp)⟩
      · exact ⟨hdecoded, hscalar⟩
    obtain ⟨bytes, hbytes, hascii, hdecode, hread⟩ := hsent.1.exists_bytes hsent.2
    exact .query rfl rfl hbytes hascii hdecode hread

/-- A call about a database at an address of the web: its address, what it carries, and that the
address tells which database it is about. -/
theorem exists_request_ask (hbase : Http.IsWeb c.apiBase) (hid : id.isScalar = true)
    (hquestion : question.IsSendable) (server : Http.Server) :
    ∃ front slashes segment request,
      c.apiBase = front ++ slashes ∧ (∀ mark ∈ slashes, mark = .scalar '/') ∧
      (∀ mark ∈ front.getLast?, mark ≠ .scalar '/') ∧
      (c.ask server id question).request = some request ∧
      request.url = front ++ ("/databases/" ++ (segment ++ question.suffix)) ∧
      Http.IsSegment segment ∧ Http.unescape? segment = some id ∧
      (∀ mark ∈ segment, mark ≠ .scalar '/' ∧ mark ≠ .scalar '?' ∧ mark ≠ .scalar '#') ∧
      question.IsCarriedBy request ∧
      ∀ server' other question' request',
        (c.ask server' other question').request = some request' → request'.url = request.url →
          other = id := by
  obtain ⟨slashes, hslashes, hsplit⟩ :=
    Text.exists_trimRight (fun c => decide (c = .scalar '/')) c.apiBase
  obtain ⟨segment, hsegment⟩ := Http.exists_segment? hid
  have hmade : (c.ask server id question).request = some (c.requestOf segment question) := by
    rw [ask_of_segment? hbase hsegment]
  have hinside := Http.isSegment_of_segment? hsegment
  refine ⟨_, slashes, segment, _, hsplit, ?_, ?_, hmade, url_requestOf c segment question, hinside,
    Http.unescape?_of_segment? hsegment, ?_, isCarriedBy_requestOf c segment hquestion, ?_⟩
  · intro mark hmark
    exact of_decide_eq_true (hslashes mark hmark)
  · intro mark hmark
    exact of_decide_eq_false (Text.eq_false_of_mem_getLast?_trimRight hmark)
  · intro mark hmark
    exact ⟨hinside.ne_mark (by decide) (by decide) hmark,
      hinside.ne_mark (by decide) (by decide) hmark, hinside.ne_mark (by decide) (by decide) hmark⟩
  · intro server' other question' request' hother hurl
    exact eq_of_request_url_eq hbase hmade hother hurl

/-- A query with a name beyond sixteen bits. -/
def gothic : Question := .query (.object [("𐌰", .int (-1))])

theorem exists_request_ask_gothic : ∃ request,
    Http.IsWeb webService.apiBase ∧ Text.isScalar "a/b?é" = true ∧ gothic.IsSendable ∧
      (webService.ask (fun _ => .unreachable) "a/b?é" gothic).request = some request ∧
      request.url = Text.ofString "https://db.test/v1/databases/a%2Fb%3F%C3%A9/query" ∧
      request.body = some (Text.ofString "\x7b\"\\ud800\\udf30\": -1\x7d") ∧
      gothic.IsCarriedBy request := by
  have hid : Text.isScalar "a/b?é" = true := by rfl
  have hbody : gothic.IsSendable := by
    refine ⟨.object (by simp [Entries.keys]) ?_, .object ?_ ?_⟩
    · simpa using Json.IsDecoded.int (by decide)
    · simp
    · simpa using Json.IsScalar.int (-1)
  obtain ⟨_, _, _, request, -, -, -, hmade, -, -, -, -, hcarried, -⟩ :=
    exists_request_ask isWeb_webService hid hbody fun _ => .unreachable
  have hsegment : Http.segment? "a/b?é" = some "a%2Fb%3F%C3%A9" := by rfl
  have hrequest := hmade
  rw [ask_of_segment? isWeb_webService hsegment] at hrequest
  obtain rfl := Option.some.inj hrequest
  refine ⟨_, isWeb_webService, hid, hbody, hmade, ?_, ?_, hcarried⟩
  · rw [url_requestOf]
    rfl
  · decide +kernel

end SchemaQuery.ApiConfig
