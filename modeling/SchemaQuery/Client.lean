import SchemaQuery.Http
import SchemaQuery.Http.Url
import SchemaQuery.Json.Reader
import SchemaQuery.Json.Writer
import SchemaQuery.Text.Encoding
import SchemaQuery.Text.Quoted

/-!
# The client of the database service

The service has two calls: one retrieves a database with its properties, one queries it. A call is
made at most once. Its result is an object, or an error that says how the call failed.
-/

namespace SchemaQuery

structure ApiConfig where
  apiKey : Text
  apiBase : Text
  version : Text
  timeout : Http.Seconds

inductive ApiError where
  /-- It answered with an error status. -/
  | status (code : Int)
  | unreachable
  | timedOut
  | notJson
  | notObject
  deriving DecidableEq

namespace ApiError

def message : ApiError → Text
  | status code => "Notion HTTP error: " ++ Text.ofInt code
  | unreachable => "Notion connection error"
  | timedOut => "Notion request timed out"
  | notJson => "Notion returned invalid JSON"
  | notObject => "Unexpected Notion response format"

def status? : ApiError → Option Int
  | status code => some code
  | _ => none

end ApiError

inductive CallError where
  | api (e : ApiError)
  /-- The connection was cut. -/
  | reset (reason : Text)
  /-- The body has a whole number of too many digits. -/
  | tooLong (digits : Nat)
  /-- The body is not well formed in the encoding that it announces. -/
  | undecodable
  /-- The id of the database has no encoding, so no address either. -/
  | badId
  /-- The address has no scheme. -/
  | noScheme (url : Text)
  deriving DecidableEq

namespace CallError

def message? : CallError → Option Text
  | api e => some e.message
  | reset reason => some reason
  | tooLong digits => some (JsonError.tooLongMessage digits)
  | noScheme url => some ("unknown url type: " ++ url.quoted)
  | undecodable | badId => none

end CallError

structure Exchange where
  request : Option Http.Request
  result : Except CallError Json

namespace ApiConfig

variable (c : ApiConfig)

def headers : List (Text × Text) := [
  ("Authorization", "Bearer " ++ c.apiKey),
  ("Content-type", "application/json"),
  ("Notion-version", c.version)]

def resultOf : Http.Outcome → Except CallError Json
  | .status code => .error (.api (.status code))
  | .unreachable => .error (.api .unreachable)
  | .timedOut => .error (.api .timedOut)
  | .reset reason => .error (.reset reason)
  | .body bytes =>
    match Encoding.decode? bytes with
    | none => .error .undecodable
    | some t =>
      match Json.read t with
      | .error .malformed => .error (.api .notJson)
      | .error (.tooLong digits) => .error (.tooLong digits)
      | .ok (.object entries) => .ok (.object entries)
      | .ok _ => .error (.api .notObject)

def call (server : Http.Server) (method : Http.Method) (path : Text) (body : Option Json) :
    Exchange :=
  let url := Http.unwrapped (c.apiBase.trimRight (· = .scalar '/') ++ path)
  if Http.hasScheme url then
    let request : Http.Request :=
      { method, url, headers := c.headers, body := body.map (Json.write .nonAscii),
        timeout := c.timeout }
    ⟨some request, resultOf (server request)⟩
  else ⟨none, .error (.noScheme url)⟩

def databasePath? (id : Text) : Option Text := (Http.segment? id).map ("/databases/" ++ ·)

def retrieve (server : Http.Server) (id : Text) : Exchange :=
  match databasePath? id with
  | some path => c.call server .get path none
  | none => ⟨none, .error .badId⟩

/-- Queries a database; an absent body is sent as an empty object. -/
def query (server : Http.Server) (id : Text) (body : Json) : Exchange :=
  match databasePath? id with
  | some path =>
    c.call server .post (path ++ "/query") (some (if body.isAbsent then .object [] else body))
  | none => ⟨none, .error .badId⟩

end ApiConfig

end SchemaQuery
