import SchemaQuery.Proofs.CommandLine.Agreement
import SchemaQuery.Proofs.Json.Standard

/-!
# Queries in standard JSON

Two texts are written of a query: the one that is printed and the one that is sent. Both are
standard JSON if all the doubles are decimals among the values of the filters. If one is not, then
neither text is, because it is written by its name. A filter that asks for the upcoming week is an
exception: its value is not written at all.
-/

namespace SchemaQuery

open StandardJson

namespace LeafFilter

theorem isFinite_condition_iff {property filterType operator : Text} {v : Json} :
    (condition property filterType [(operator, v)]).IsFinite ↔ v.IsFinite := by
  have hrecord : (Json.record [(operator, v)]).IsFinite ↔ v.IsFinite := by
    simp [Json.record, Entries.ofList, Entries.insert, Json.isFinite_object_iff]
  by_cases h : filterType = propertyKey
  · rw [h, condition_propertyKey, Json.isFinite_object_iff]
    simpa using hrecord
  · rw [condition_of_ne h, Json.isFinite_object_iff]
    simpa [Json.IsFinite.string] using hrecord

theorem isFinite_inWeek (property : Text) (week : Week) :
    (inWeek property week).toJson.IsFinite := by
  have hoperators : (Json.record [("on_or_after", .string week.start.write),
      ("before", .string week.stop.write)]).IsFinite := .record (by simp [Json.IsFinite.string])
  exact .record (by simp [Json.IsFinite.string, hoperators])

end LeafFilter

namespace FilterSpec

variable {f : FilterSpec} {now : Moment} {l : LeafFilter}

/-- The doubles are decimals in what is written of the filter's value: all of it, or nothing. -/
def WritesFinite (f : FilterSpec) : Prop :=
  (f.filterType = "date" ∧ f.operator = nextWeek) ∨ f.value.IsFinite

theorem isFinite_dateLeaf_iff (hdate : f.filterType = "date")
    (h : (f.dateLeaf now).value = some l) : l.toJson.IsFinite ↔ f.WritesFinite := by
  have hleaf := f.isDateLeaf_dateLeaf now
  rw [h] at hleaf
  generalize hresult : some l = result at hleaf
  cases hleaf with
  | upcoming hoperator =>
    obtain ⟨week, -, rfl⟩ := Option.map_eq_some_iff.1 hresult.symm
    exact iff_of_true (LeafFilter.isFinite_inWeek _ week) (Or.inl ⟨hdate, hoperator⟩)
  | week _ hvalue =>
    obtain ⟨week, -, rfl⟩ := Option.map_eq_some_iff.1 hresult.symm
    exact iff_of_true (LeafFilter.isFinite_inWeek _ week) (Or.inr (hvalue ▸ .string _))
  | date _ hvalue =>
    cases hresult
    exact iff_of_true (LeafFilter.isFinite_condition_iff.2 (.string _))
      (Or.inr (hvalue ▸ .string _))
  | given hoperator =>
    cases hresult
    have hwrites : f.WritesFinite ↔ f.value.IsFinite := by simp [WritesFinite, hoperator]
    rw [hwrites]
    exact LeafFilter.isFinite_condition_iff

theorem isFinite_leaf_iff (h : (f.leaf now).value = some l) :
    l.toJson.IsFinite ↔ f.WritesFinite := by
  by_cases hdate : f.filterType = "date"
  · rw [leaf_of_date hdate] at h
    exact isFinite_dateLeaf_iff hdate h
  · have hwrites : f.WritesFinite ↔ f.value.IsFinite := by simp [WritesFinite, hdate]
    rw [toJson_of_other hdate h, hwrites]
    exact LeafFilter.isFinite_condition_iff

end FilterSpec

namespace CompiledQuery

variable {q : CompiledQuery}

theorem isFinite_filterJson_iff :
    q.filterJson.IsFinite ↔ ∀ leaf ∈ q.filters, leaf.toJson.IsFinite := by
  have hand : q.filterJson = .object [("and", .array (q.filters.map LeafFilter.toJson))] := rfl
  rw [hand, Json.isFinite_object_iff]
  simp [Json.isFinite_array_iff]

theorem isFinite_of_mem_sorts {e : Text × Json} (h : e ∈ q.sorts) : e.2.IsFinite := by
  unfold sorts at h
  split at h
  · obtain rfl := List.mem_singleton.1 h
    apply Json.IsFinite.array
    intro v hv
    obtain rfl := List.mem_singleton.1 hv
    exact .record (by simp [Json.IsFinite.string])
  · cases h

theorem isFinite_toJson_iff :
    q.toJson.IsFinite ↔ ∀ leaf ∈ q.filters, leaf.toJson.IsFinite := by
  rw [toJson_eq, Json.isFinite_object_iff, members, List.forall_mem_cons, List.forall_mem_cons,
    isFinite_filterJson_iff]
  constructor
  · intro h
    exact h.2.1
  · intro h
    exact ⟨.string _, h, fun _ => isFinite_of_mem_sorts⟩

/-- No leaf is left out of what is sent. -/
theorem isFinite_requestBody_iff :
    q.requestBody.IsFinite ↔ ∀ leaf ∈ q.filters, leaf.toJson.IsFinite := by
  rw [requestBody_eq, Json.isFinite_object_iff, sent_members]
  split
  · rename_i hempty
    rw [List.isEmpty_iff.1 hempty]
    exact iff_of_true (fun _ => isFinite_of_mem_sorts) (by simp)
  · rw [List.forall_mem_cons, isFinite_filterJson_iff]
    constructor
    · intro h
      exact h.1
    · intro h
      exact ⟨h, fun _ => isFinite_of_mem_sorts⟩

end CompiledQuery

namespace QueryRequest

variable {r : QueryRequest} {c : Compiler} {now : Moment} {q : CompiledQuery}

/-- The doubles are decimals in all values that are written of the request. -/
def WritesFinite (r : QueryRequest) : Prop := ∀ f ∈ r.filters, f.WritesFinite

theorem isFinite_leaves_iff (h : (c.compile r.database r.filters r.sort now).value = .ok q) :
    (∀ leaf ∈ q.filters, leaf.toJson.IsFinite) ↔ r.WritesFinite := by
  unfold WritesFinite
  have hleaves := (Compiler.forall₂_leaf_of_compile h).1
  generalize r.filters = filters at hleaves ⊢
  generalize q.filters = kept at hleaves ⊢
  induction hleaves with
  | nil => simp
  | cons hleaf _ ih => simp only [List.forall_mem_cons, FilterSpec.isFinite_leaf_iff hleaf, ih]

theorem isText_printed_iff (h : (c.compile r.database r.filters r.sort now).value = .ok q) :
    IsText (q.toJson.writeIndented ++ "\n") ↔ r.WritesFinite := by
  rw [← isFinite_leaves_iff h, ← CompiledQuery.isFinite_toJson_iff]
  have hbreak : IsSpaces "\n" := by simp [IsSpaces, Text.ofString, JsonToken.isSpace]
  constructor
  · intro htext
    exact isFinite_of_isPlain _ 0
      (htext.isPlain.of_append (isClosed_writeAt _ 0) hbreak.isPlain.closed).1
  · intro hfinite
    exact .spaced isSpaces_nil (isText_writeAt hfinite 0) hbreak

theorem isText_body_iff {client : ApiConfig} {server : Http.Server} {request : Http.Request}
    (h : (c.compile r.database r.filters r.sort now).value = .ok q)
    (hrequest : (client.query server q.databaseId q.requestBody).request = some request) :
    ∃ body, request.body = some body ∧ (IsText body ↔ r.WritesFinite) := by
  have hbody : (if q.requestBody.isAbsent then .object [] else q.requestBody) = q.requestBody := by
    split
    · rename_i habsent
      rw [CompiledQuery.requestBody_eq] at habsent ⊢
      rw [List.isEmpty_iff.1 habsent]
    · rfl
  unfold ApiConfig.query at hrequest
  split at hrequest
  · rw [hbody] at hrequest
    unfold ApiConfig.call at hrequest
    simp only at hrequest
    split at hrequest
    · cases hrequest
      refine ⟨_, rfl, ?_⟩
      rw [← isFinite_leaves_iff h, ← CompiledQuery.isFinite_requestBody_iff]
      exact isText_writeAt_iff
    · cases hrequest
  · cases hrequest

end QueryRequest

namespace Surroundings

variable {s : Surroundings} {arguments : List Text} {source : RequestSource}

theorem exists_printed (hcompile : Arguments.read arguments = .ok (.command (.compile source)))
    (h : (s.run arguments).ending = .success) :
    ∃ t r c now q, s.requestText source.path = .ok t ∧ Request.read t = .ok r ∧
      (Compiler.compile c r.database r.filters r.sort now).value = .ok q ∧
      (s.run arguments).output = q.toJson.writeIndented ++ "\n" := by
  rw [run_of_read hcompile] at h ⊢
  obtain ⟨settings, setup, w, -, -, hresult, -⟩ := runCommand_success h
  obtain ⟨r, store, now, q, hprepare, -, hq, houtput⟩ :=
    Workspace.compileText_eq_ok (show (w.compileText s source).value = .ok _ from hresult)
  obtain ⟨t, htext, hread⟩ := Workspace.prepare_eq_ok hprepare
  exact ⟨t, r, w.compiler store, now, q, htext, hread, hq, houtput⟩

/-- What is sent of a request and what is printed of it is standard JSON exactly when the doubles
are decimals in the values that are written. -/
theorem isText_iff_writesFinite (c : Compiler) (client : ApiConfig) (server : Http.Server)
    (s : Surroundings) (arguments : List Text) :
    (∀ (r : QueryRequest) (now : Moment) (q : CompiledQuery) (request : Http.Request),
      (c.compile r.database r.filters r.sort now).value = .ok q →
      (client.query server q.databaseId q.requestBody).request = some request →
      ∃ body, request.body = some body ∧ (IsText body ↔ r.WritesFinite)) ∧
    ∀ source : RequestSource, Arguments.read arguments = .ok (.command (.compile source)) →
      (s.run arguments).ending = .success →
      ∃ t r, s.requestText source.path = .ok t ∧ Request.read t = .ok r ∧
        (IsText (s.run arguments).output ↔ r.WritesFinite) := by
  constructor
  · intro r now q request hquery hrequest
    exact QueryRequest.isText_body_iff hquery hrequest
  · intro source hcompile hsuccess
    obtain ⟨t, r, c, now, q, htext, hread, hquery, houtput⟩ := exists_printed hcompile hsuccess
    refine ⟨t, r, htext, hread, ?_⟩
    rw [houtput]
    exact QueryRequest.isText_printed_iff hquery

/-- What is due in the upcoming week and has something in its title, each with a value. -/
def dueAndTitled (week title : Json) : QueryRequest :=
  ⟨"T", [⟨"D", "date", FilterSpec.nextWeek, week⟩, ⟨"N", "title", "contains", title⟩], none⟩

def asking (week title : Json) : Surroundings :=
  let request : Json := .record [("database", .string "T"), ("filters", .array [
    filterItem "D" "date" FilterSpec.nextWeek week, filterItem "N" "title" "contains" title])]
  { dueDates with input := request.write .controls, server := findsNothing }

/-- The value of the week is no decimal, but is not written. -/
theorem isText_iff_writesFinite_week :
    ((asking (.float .nan) (.int 1)).run ["compile"]).ending = .success ∧
      IsText ((asking (.float .nan) (.int 1)).run ["compile"]).output ∧
      ∃ request body,
        (Compiler.localService.query findsNothing "t" (.object [("filter", .object [("and", .array
          [(LeafFilter.inWeek "D" Compiler.firstWeek).toJson,
            LeafFilter.condition "N" "title" [("contains", .int 1)]])])])).request =
          some request ∧ request.body = some body ∧ IsText body := by
  have hread : Request.read (asking (.float .nan) (.int 1)).input =
      .ok (dueAndTitled (.float .nan) (.int 1)) := by rfl
  have hwrites : (dueAndTitled (.float .nan) (.int 1)).WritesFinite := by
    intro f hf
    rcases List.mem_pair.1 hf with rfl | rfl
    · exact Or.inl ⟨rfl, rfl⟩
    · exact Or.inr (.int 1)
  have hsuccess := Ending.isSuccess_iff.1 (by decide +kernel :
    ((asking (.float .nan) (.int 1)).run ["compile"]).ending.isSuccess = true)
  have hquery : (Compiler.compile ⟨⟨⟨[("T", "t")], by decide⟩⟩, none⟩ "T"
      (dueAndTitled (.float .nan) (.int 1)).filters none default).value =
      .ok ⟨"t", [.inWeek "D" Compiler.firstWeek, .passedOn "N" "title" "contains" (.int 1)],
        none⟩ := rfl
  obtain ⟨hsends, hprints⟩ := isText_iff_writesFinite ⟨⟨⟨[("T", "t")], by decide⟩⟩, none⟩
    Compiler.localService findsNothing (asking (.float .nan) (.int 1)) ["compile"]
  obtain ⟨t, r, htext, hr, hprinted⟩ := hprints _ rfl hsuccess
  obtain rfl : _ = t := Except.ok.inj htext
  obtain rfl := Except.ok.inj (hread.symm.trans hr)
  obtain ⟨body, hbody, hsent⟩ := hsends (dueAndTitled (.float .nan) (.int 1)) _ _ _ hquery rfl
  exact ⟨hsuccess, hprinted.2 hwrites, _, body, rfl, hbody, hsent.2 hwrites⟩

theorem not_isText_of_mem_bare {t : Text} (h : .scalar 'N' ∈ bare t) : ¬ IsText t :=
  fun htext => (htext.isPlain.ordinary _ h).2.1 rfl

/-- The name of a double is printed and sent. -/
theorem not_isText_title :
    ((asking .null (.float .nan)).run ["compile"]).ending = .success ∧
      ¬ IsText ((asking .null (.float .nan)).run ["compile"]).output ∧
      ∃ request ∈ ((asking .null (.float .nan)).run ["query"]).calls,
        ∃ body, request.body = some body ∧ ¬ IsText body := by
  have hsuccess := Ending.isSuccess_iff.1 (by decide +kernel :
    ((asking .null (.float .nan)).run ["compile"]).ending.isSuccess = true)
  have hprinted : .scalar 'N' ∈ bare ((asking .null (.float .nan)).run ["compile"]).output := by
    decide +kernel
  have hsent : ∃ request ∈ ((asking .null (.float .nan)).run ["query"]).calls,
      ∃ body ∈ request.body, .scalar 'N' ∈ bare body := by
    decide +kernel
  obtain ⟨request, hcall, body, hbody, hname⟩ := hsent
  exact ⟨hsuccess, not_isText_of_mem_bare hprinted, request, hcall, body, hbody,
    not_isText_of_mem_bare hname⟩

end Surroundings

end SchemaQuery
