import SchemaQuery.Proofs.Client
import SchemaQuery.Proofs.Query.Document
import SchemaQuery.Proofs.Query.Validation
import SchemaQuery.Service

/-!
# What executing sends

A request is sent to the service when its database is known and at hand, when it fits the schema of
that database, and when its weeks do not pass the end of the calendar; otherwise nothing is sent.
What is sent is the query that the request compiles to under the name that it gives. Executing looks
that name up twice, but the name that it finds is found again, with the same id and the same schema.
-/

namespace SchemaQuery.Compiler

variable {c : Compiler} {client : ApiConfig} {server : Http.Server} {r : QueryRequest}
  {name key id : Text} {filters : List FilterSpec} {sort : Option SortSpec} {now : Moment}
  {schema : DatabaseSchema} {q : CompiledQuery}

theorem compile_of_resolve? (h : c.resolve? name = some (key, id)) :
    (c.compile key filters sort now).value = (c.compile name filters sort now).value := by
  rw [compile_value, compile_value, h, resolve?_of_resolve? h]

def answered (schema : DatabaseSchema) (name : Text) (filters : Nat) :
    Except CallError Json → Except QueryError QueryResult
  | .error e => .error (.call e)
  | .ok answer => (renderAnswer schema name filters answer).value

theorem execute_value : (c.execute client server r now).value =
    match c.resolve? r.database with
    | none => ⟨none, .error (.compile (.unknownDatabase r.database))⟩
    | some (key, _) =>
      match c.cached? key with
      | none => ⟨none, .error (.compile (.unknownDatabase key))⟩
      | some schema =>
        match (c.compile r.database r.filters r.sort now).value with
        | .error e => ⟨none, .error (.compile e)⟩
        | .ok q =>
          ⟨(client.query server q.databaseId q.requestBody).request,
            answered schema key q.filters.length
              (client.query server q.databaseId q.requestBody).result⟩ := by
  unfold execute cached?
  cases hresolve : c.resolve? r.database with
  | none => rfl
  | some found =>
    obtain ⟨key, id⟩ := found
    simp only
    cases c.cache.bind (·.find? key) with
    | none => rfl
    | some schema =>
      simp only [Logged.bind_value, compile_of_resolve? hresolve]
      cases (c.compile r.database r.filters r.sort now).value with
      | error e => rfl
      | ok q =>
        simp only
        cases (client.query server q.databaseId q.requestBody).result with
        | error e => rfl
        | ok answer => rfl

/-- A request can be sent: its database is known and at hand, it fits, and the calendar has its
weeks. -/
structure IsReady (c : Compiler) (r : QueryRequest) (now : Moment) (key id : Text)
    (schema : DatabaseSchema) : Prop where
  finds : c.Finds r.database key id
  cached : c.cached? key = some schema
  accepts : schema.Accepts r.filters r.sort
  calendar : ∀ f ∈ r.filters, ¬ f.PassesCalendar now

inductive Executes (c : Compiler) (client : ApiConfig) (server : Http.Server) (r : QueryRequest)
    (now : Moment) : Execution → Prop
  | unknown : (∀ key id, ¬ c.Finds r.database key id) →
    Executes c client server r now ⟨none, .error (.compile (.unknownDatabase r.database))⟩
  /-- The database is known, but its schema is not at hand. -/
  | uncached {key id : Text} : c.Finds r.database key id → c.cached? key = none →
    Executes c client server r now ⟨none, .error (.compile (.unknownDatabase key))⟩
  | misfit {key id : Text} {schema : DatabaseSchema} {e : FitError} : c.Finds r.database key id →
    c.cached? key = some schema → schema.Refuses r.filters r.sort e →
    Executes c client server r now ⟨none, .error (.compile (.misfit e))⟩
  | pastCalendar {key id : Text} {schema : DatabaseSchema} {f : FilterSpec} :
    c.Finds r.database key id → c.cached? key = some schema → schema.Accepts r.filters r.sort →
    f ∈ r.filters → f.PassesCalendar now →
    Executes c client server r now ⟨none, .error (.compile .pastCalendar)⟩
  /-- The query is the one of the name in the request, and the pages are rendered with the schema
  that the request was checked against. -/
  | called {key id : Text} {schema : DatabaseSchema} {q : CompiledQuery} :
    c.IsReady r now key id schema → (c.compile r.database r.filters r.sort now).value = .ok q →
    q.databaseId = id →
    Executes c client server r now
      ⟨(client.query server id q.requestBody).request,
        answered schema key q.filters.length (client.query server id q.requestBody).result⟩

theorem Finds.unique {key' id' : Text} (h : c.Finds name key id) (h' : c.Finds name key' id') :
    key = key' ∧ id = id' := by
  have hsame := resolve?_eq_some_iff.2 h
  rw [resolve?_eq_some_iff.2 h'] at hsame
  cases hsame
  exact ⟨rfl, rfl⟩

theorem databaseId_of_compile (hfinds : c.Finds name key id)
    (hquery : (c.compile name filters sort now).value = .ok q) : q.databaseId = id := by
  have hyields := c.yields_compile name filters sort now
  rw [hquery] at hyields
  cases hyields with
  | query hfinds' => exact (hfinds'.unique hfinds).2

theorem executes_execute (c : Compiler) (client : ApiConfig) (server : Http.Server)
    (r : QueryRequest) (now : Moment) :
    c.Executes client server r now (c.execute client server r now).value := by
  rw [execute_value]
  cases hresolve : c.resolve? r.database with
  | none => exact .unknown (resolve?_eq_none_iff.1 hresolve)
  | some found =>
    obtain ⟨key, id⟩ := found
    have hfinds := resolve?_eq_some_iff.1 hresolve
    simp only
    cases hschema : c.cached? key with
    | none => exact .uncached hfinds hschema
    | some schema =>
      simp only
      cases hquery : (c.compile r.database r.filters r.sort now).value with
      | ok q =>
        have haccepts := (accepts_iff_of_cached? hschema).1 (accepts_of_compile hfinds hquery)
        obtain rfl := databaseId_of_compile hfinds hquery
        exact .called ⟨hfinds, hschema, haccepts, not_passesCalendar_of_compile hquery⟩ hquery rfl
      | error e =>
        have hyields := c.yields_compile r.database r.filters r.sort now
        rw [hquery] at hyields
        cases hyields with
        | unknown hnone => exact absurd hfinds (hnone key id)
        | misfit hfinds' hschema' hrefuses =>
          obtain ⟨rfl, rfl⟩ := hfinds'.unique hfinds
          exact .misfit hfinds hschema' hrefuses
        | pastCalendar hfinds' haccepts hf hpasses =>
          obtain ⟨rfl, rfl⟩ := hfinds'.unique hfinds
          have haccepts' := (accepts_iff_of_cached? hschema).1 haccepts
          exact .pastCalendar hfinds hschema haccepts' hf hpasses

theorem Executes.execute_eq {x : Execution} (h : c.Executes client server r now x) :
    (c.execute client server r now).value = x := by
  rw [execute_value]
  cases h with
  | unknown hnone => rw [resolve?_eq_none_iff.2 hnone]
  | uncached hfinds hschema => simp only [resolve?_eq_some_iff.2 hfinds, hschema]
  | misfit hfinds hschema hrefuses =>
    simp only [resolve?_eq_some_iff.2 hfinds, hschema,
      (Yields.misfit hfinds hschema hrefuses).compile_eq]
  | pastCalendar hfinds hschema haccepts hf hpasses =>
    have haccepts := (accepts_iff_of_cached? hschema).2 haccepts
    simp only [resolve?_eq_some_iff.2 hfinds, hschema,
      (Yields.pastCalendar hfinds haccepts hf hpasses).compile_eq]
  | called hready hquery hid =>
    simp only [resolve?_eq_some_iff.2 hready.finds, hready.cached, hquery, hid]

theorem execute_eq_ok {found : QueryResult}
    (h : (c.execute client server r now).value.result = .ok found) :
    ∃ q answer, (c.compile r.database r.filters r.sort now).value = .ok q ∧
      (client.query server q.databaseId q.requestBody).result = .ok answer ∧
      (c.execute client server r now).value.call =
        (client.query server q.databaseId q.requestBody).request := by
  have hexecutes := c.executes_execute client server r now
  generalize (c.execute client server r now).value = x at h hexecutes
  cases hexecutes with
  | unknown | uncached | misfit | pastCalendar => cases h
  | @called _ _ _ q _ hquery hid =>
    subst hid
    cases hanswer : (client.query server q.databaseId q.requestBody).result with
    | error e =>
      simp only [hanswer] at h
      cases h
    | ok answer => exact ⟨q, answer, hquery, hanswer, rfl⟩

/-- What is sent is a query of the database that the name in the request leads to, as the request
compiles to it under that name. -/
def Sends (c : Compiler) (client : ApiConfig) (r : QueryRequest) (now : Moment)
    (request : Http.Request) : Prop :=
  ∃ key id schema q segment, c.IsReady r now key id schema ∧
    (c.compile r.database r.filters r.sort now).value = .ok q ∧ q.databaseId = id ∧
    Http.segment? id = some segment ∧ request = client.queryRequest segment q.requestBody

theorem IsReady.exists_compile (h : c.IsReady r now key id schema) :
    ∃ q, (c.compile r.database r.filters r.sort now).value = .ok q ∧ q.databaseId = id := by
  have haccepts := (accepts_iff_of_cached? h.cached).2 h.accepts
  obtain ⟨kept, hquery⟩ := exists_compile_eq_ok h.finds haccepts h.calendar
  exact ⟨_, hquery, rfl⟩

theorem IsReady.call_eq {segment : Text} (h : c.IsReady r now key id schema)
    (hbase : Http.IsWeb client.apiBase)
    (hquery : (c.compile r.database r.filters r.sort now).value = .ok q) (hid : q.databaseId = id)
    (hsegment : Http.segment? id = some segment) :
    (c.execute client server r now).value.call =
      some (client.queryRequest segment q.requestBody) := by
  have hcalled : c.Executes client server r now _ := .called h hquery hid
  rw [hcalled.execute_eq, q.requestBody_eq, ApiConfig.query_of_segment? hbase hsegment]

/-- Nothing is sent unless everything before has succeeded. -/
theorem exists_isReady_of_call {request : Http.Request}
    (h : (c.execute client server r now).value.call = some request) :
    ∃ key id schema, c.IsReady r now key id schema := by
  have hexecutes := c.executes_execute client server r now
  generalize (c.execute client server r now).value = x at h hexecutes
  cases hexecutes with
  | unknown | uncached | misfit | pastCalendar => cases h
  | called hready => exact ⟨_, _, _, hready⟩

section Web

variable (hbase : Http.IsWeb client.apiBase)
  (hids : ∀ key id, c.Finds r.database key id → id.isScalar = true)

include hbase hids

theorem IsReady.exists_sends (h : c.IsReady r now key id schema) (server : Http.Server) :
    ∃ request, (c.execute client server r now).value.call = some request ∧
      c.Sends client r now request := by
  obtain ⟨q, hquery, hid⟩ := h.exists_compile
  obtain ⟨segment, hsegment⟩ := Http.exists_segment? (hids key id h.finds)
  exact ⟨_, h.call_eq hbase hquery hid hsegment, key, id, schema, q, segment, h, hquery, hid,
    hsegment, rfl⟩

theorem call_eq_some_iff_sends {request : Http.Request} :
    (c.execute client server r now).value.call = some request ↔ c.Sends client r now request := by
  constructor
  · intro hcall
    obtain ⟨key, id, schema, hready⟩ := exists_isReady_of_call hcall
    obtain ⟨sent, hsent, hsends⟩ := hready.exists_sends hbase hids server
    rw [hcall] at hsent
    cases hsent
    exact hsends
  · rintro ⟨key, id, schema, q, segment, hready, hquery, hid, hsegment, rfl⟩
    exact hready.call_eq hbase hquery hid hsegment

theorem exists_call_iff_exists_isReady :
    (∃ request, (c.execute client server r now).value.call = some request) ↔
      ∃ key id schema, c.IsReady r now key id schema := by
  constructor
  · rintro ⟨request, hcall⟩
    exact exists_isReady_of_call hcall
  · rintro ⟨key, id, schema, hready⟩
    obtain ⟨request, hcall, -⟩ := hready.exists_sends hbase hids server
    exact ⟨request, hcall⟩

end Web

/-- Executing a request has exactly one of five outcomes, and calls the service in the last one
only. At an address of the web and with ids that have bytes, one request is sent just when the
request is ready, and it is the query that the request compiles to under the name that it gives. -/
theorem execute_eq_iff_executes (c : Compiler) (client : ApiConfig) (server : Http.Server)
    (r : QueryRequest) (now : Moment) :
    (∀ x, (c.execute client server r now).value = x ↔ c.Executes client server r now x) ∧
    (Http.IsWeb client.apiBase → (∀ key id, c.Finds r.database key id → id.isScalar = true) →
      ((∃ request, (c.execute client server r now).value.call = some request) ↔
        ∃ key id schema, c.IsReady r now key id schema) ∧
      ∀ request, (c.execute client server r now).value.call = some request ↔
        c.Sends client r now request) := by
  constructor
  · intro x
    constructor
    · rintro rfl
      exact c.executes_execute client server r now
    · exact Executes.execute_eq
  · intro hbase hids
    constructor
    · exact exists_call_iff_exists_isReady hbase hids
    · intro request
      exact call_eq_some_iff_sends hbase hids

def localService : ApiConfig := ⟨"secret", "http://localhost", "2022-06-28", .whole 10⟩

/-- What is due in the upcoming week, from a database that is registered in other letters. -/
def dueNextWeek : QueryRequest := ⟨"TASKS", [⟨"Due", "date", FilterSpec.nextWeek, .null⟩], none⟩

/-- The week that begins on the first day of the calendar, which is a Monday. -/
def firstWeek : Week :=
  ⟨Date.first, { Date.first with day := 8, day_pos := by decide, day_le := by decide }⟩

/-- The query that the request compiles to on that day. -/
def dueInFirstWeek : CompiledQuery := ⟨"t1", [.inWeek "Due" firstWeek], none⟩

theorem execute_eq_iff_executes_dueNextWeek :
    Http.IsWeb localService.apiBase ∧
    (∀ key id, dueDates.Finds dueNextWeek.database key id → id.isScalar = true) ∧
    (dueDates.execute localService (fun _ => .timedOut) dueNextWeek default).value.call =
      some (localService.queryRequest "t1" dueInFirstWeek.requestBody) ∧
    (localService.queryRequest "t1" dueInFirstWeek.requestBody).url =
      "http://localhost/databases/t1/query" := by
  have hweb : Http.IsWeb localService.apiBase := ⟨"http", "//localhost", rfl, .inl rfl⟩
  have hfound : dueDates.resolve? dueNextWeek.database =
      some (("Tasks" : Text), ("t1" : Text)) := by
    decide
  have hids : ∀ key id, dueDates.Finds dueNextWeek.database key id → id.isScalar = true := by
    intro key id hfinds
    rw [resolve?_eq_some_iff.2 hfinds] at hfound
    cases hfound
    rfl
  have hfinds := resolve?_eq_some_iff.1 hfound
  have hquery : (dueDates.compile dueNextWeek.database dueNextWeek.filters dueNextWeek.sort
      default).value = .ok dueInFirstWeek := rfl
  have hcached : dueDates.cached? "Tasks" = some dueDateSchema := rfl
  have haccepts := (accepts_iff_of_cached? hcached).1 (accepts_of_compile hfinds hquery)
  have hready : dueDates.IsReady dueNextWeek default "Tasks" "t1" dueDateSchema :=
    ⟨hfinds, hcached, haccepts, not_passesCalendar_of_compile hquery⟩
  have hcalls := (execute_eq_iff_executes dueDates localService (fun _ => .timedOut) dueNextWeek
    default).2 hweb hids
  have hsends : dueDates.Sends localService dueNextWeek default
      (localService.queryRequest "t1" dueInFirstWeek.requestBody) :=
    ⟨"Tasks", "t1", dueDateSchema, dueInFirstWeek, "t1", hready, hquery, rfl, rfl, rfl⟩
  exact ⟨hweb, hids, (hcalls.2 _).2 hsends, rfl⟩

end SchemaQuery.Compiler
