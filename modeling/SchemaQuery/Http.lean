import SchemaQuery.Binary64
import SchemaQuery.Text.Utf8

/-!
# HTTP requests

A server is a function from requests to outcomes. What goes wrong on the way, on opening or while
the body is read, is an outcome too. The requests are ones that can be sent: header values without
line breaks, and a time to wait that a connection can be given.
-/

namespace SchemaQuery.Http

inductive Method where
  | get
  | post
  deriving DecidableEq

namespace Method

def name : Method → Text
  | get => "GET"
  | post => "POST"

end Method

inductive Seconds where
  | whole (n : Int)
  | decimal (x : Binary64)
  deriving DecidableEq

structure Request where
  method : Method
  url : Text
  /-- In the order of their names. -/
  headers : List (Text × Text)
  body : Option Text
  timeout : Seconds
  deriving DecidableEq

inductive Outcome where
  /-- The server answered with a body and without an error. -/
  | body (bytes : Bytes)
  /-- The server answered with an error. -/
  | status (code : Int)
  | unreachable
  | timedOut
  /-- The connection was cut, with what the system says about it. -/
  | reset (reason : Text)
  deriving DecidableEq

abbrev Server := Request → Outcome

end SchemaQuery.Http
