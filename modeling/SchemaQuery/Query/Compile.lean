import SchemaQuery.Query
import SchemaQuery.Registry
import SchemaQuery.Schema.Check

/-!
# Compiling requests

A request is compiled for the database that it names. If schemas are cached and that database is
among them, filters and sort have to fit its schema; otherwise they pass unchecked.
-/

namespace SchemaQuery

/-- The schemas at hand; none before any have been loaded. -/
structure SchemaCache where
  snapshot : Option Snapshot

namespace SchemaCache

variable (c : SchemaCache)

def find? (name : Text) : Option DatabaseSchema := c.snapshot.bind (·.find? name)

end SchemaCache

inductive CompileError where
  | unknownDatabase (name : Text)
  | misfit (e : FitError)
  /-- A week would pass the end of the calendar. -/
  | pastCalendar

/-- Where names of databases are looked up: the registry first, then the cache if there is one. -/
structure Compiler where
  registry : Registry
  cache : Option SchemaCache

namespace Compiler

variable (c : Compiler)

/-- The registered name and the id of a database. One that is only cached goes by its exact name. -/
def resolve? (name : Text) : Option (Text × Text) :=
  match c.registry.resolve? name with
  | some found => some found
  | none => (c.cache.bind (·.find? name)).map fun schema => (name, schema.id)

def check (name : Text) (filters : List FilterSpec) (sort : Option SortSpec) :
    Logged (Except FitError Unit) :=
  match c.cache with
  | none => pure (.ok ())
  | some cache =>
    match cache.find? name with
    | none => .withEvent (.unchecked name) (.ok ())
    | some schema => pure (schema.checkRequest filters sort)

/-- The leaves of filters in their order; none as soon as a week passes the end of the calendar. -/
def leaves (now : Moment) : List FilterSpec → Logged (Option (List LeafFilter))
  | [] => pure (some [])
  | f :: filters => do
    match ← f.leaf now with
    | none => return none
    | some leaf => return (← leaves now filters).map (leaf :: ·)

def compile (name : Text) (filters : List FilterSpec) (sort : Option SortSpec) (now : Moment) :
    Logged (Except CompileError CompiledQuery) :=
  match c.resolve? name with
  | none => pure (.error (.unknownDatabase name))
  | some (name, id) => do
    match ← c.check name filters sort with
    | .error e => return .error (.misfit e)
    | .ok () =>
      match ← leaves now filters with
      | none => return .error .pastCalendar
      | some leaves => return .ok ⟨id, leaves, sort⟩

end Compiler

end SchemaQuery
