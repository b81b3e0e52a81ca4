import SchemaQuery.Client
import SchemaQuery.Query.Compile
import SchemaQuery.Rendering

/-!
# Executing requests

A request is compiled, sent to the service, and the pages that come back are rendered. The titles of
pages are found with the cached schema of the database, so there has to be one.
-/

namespace SchemaQuery

inductive QueryError where
  | compile (e : CompileError)
  | call (e : CallError)
  /-- The results are not what they are used as. -/
  | misuse (m : Misuse)

structure QueryResult where
  formatted : Text
  pages : List Json

structure Execution where
  call : Option Http.Request
  result : Except QueryError QueryResult

namespace Compiler

variable (c : Compiler)

def pagesOf (answer : Json) : Except Misuse (List Json) :=
  ((answer.member? "results").getD .null).presentItems

def renderAnswer (schema : DatabaseSchema) (name : Text) (filters : Nat) (answer : Json) :
    Logged (Except QueryError QueryResult) :=
  match pagesOf answer with
  | .error m => pure (.error (.misuse m))
  | .ok pages =>
    .withEvent (.queried name filters pages.length)
      (match renderPages schema pages with
        | .error m => .error (.misuse m)
        | .ok formatted => .ok ⟨formatted, pages⟩)

def execute (client : ApiConfig) (server : Http.Server) (request : QueryRequest) (now : Moment) :
    Logged Execution :=
  match c.resolve? request.database with
  | none => pure ⟨none, .error (.compile (.unknownDatabase request.database))⟩
  | some (name, _) =>
    match c.cache.bind (·.find? name) with
    | none => pure ⟨none, .error (.compile (.unknownDatabase name))⟩
    | some schema => do
      match ← c.compile name request.filters request.sort now with
      | .error e => return ⟨none, .error (.compile e)⟩
      | .ok query =>
        let exchange := client.query server query.databaseId query.requestBody
        match exchange.result with
        | .error e => return ⟨exchange.request, .error (.call e)⟩
        | .ok answer =>
          return ⟨exchange.request, ← renderAnswer schema name query.filters.length answer⟩

end Compiler

end SchemaQuery
