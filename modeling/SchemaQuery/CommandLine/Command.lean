import SchemaQuery.Text.Quoted

/-!
# Commands

The program has four commands. Two of them take a request, from a file or from the standard input,
and a reference instant for its dates.
-/

namespace SchemaQuery

inductive CommandName where
  | refreshSchemas
  | compile
  | query
  | describe
  deriving DecidableEq

namespace CommandName

def all : List CommandName := [refreshSchemas, compile, query, describe]

def text : CommandName → Text
  | refreshSchemas => "refresh-schemas"
  | compile => "compile"
  | query => "query"
  | describe => "describe"

def ofText? (t : Text) : Option CommandName := all.find? fun name => name.text = t

def takesRequest : CommandName → Bool
  | compile | query => true
  | refreshSchemas | describe => false

/-- What the command is for, in the words of the help. -/
def summary : CommandName → Text
  | refreshSchemas => "Fetch and cache all database schemas."
  | compile => "Print the compiled query for a request."
  | query => "Execute a request and print the results."
  | describe => "Print the cached schemas."

end CommandName

structure RequestSource where
  /-- The path of a file, or a hyphen for the standard input. -/
  path : Text
  /-- The reference instant as it was typed. -/
  now : Option Text
  deriving DecidableEq

inductive Command where
  | refreshSchemas
  | compile (source : RequestSource)
  | query (source : RequestSource)
  | describe
  deriving DecidableEq

namespace Command

/-- The command of a name; one without a request ignores the source. -/
def ofName (name : CommandName) (source : RequestSource) : Command :=
  match name with
  | .refreshSchemas => refreshSchemas
  | .compile => compile source
  | .query => query source
  | .describe => describe

end Command

end SchemaQuery
