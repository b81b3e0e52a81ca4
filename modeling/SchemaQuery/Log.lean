import SchemaQuery.Text.Quoted

/-!
# The log

Everything the program reports beside its results is an event. An event has a level, the name of the
component it comes from and a message; `Logged` carries the events of a computation in order.
-/

namespace SchemaQuery

inductive LogLevel where
  | debug
  | info
  | warning
  | error
  deriving DecidableEq

namespace LogLevel

def number : LogLevel → Nat
  | debug => 10
  | info => 20
  | warning => 30
  | error => 40

def name : LogLevel → Text
  | debug => "DEBUG"
  | info => "INFO"
  | warning => "WARNING"
  | error => "ERROR"

end LogLevel

inductive LogEvent where
  /-- No date was found, so the reference day was taken. -/
  | unparsedDate (text : Option Text)
  /-- What was found is no day of the calendar, so the reference day was taken. -/
  | impossibleDate (text : Text)
  /-- A query was not checked, since the database has no cached schema. -/
  | unchecked (database : Text)
  | queried (database : Text) (filters results : Nat)
  | noSnapshot (path : Text)
  | fetchFailed (name id : Text)
  | fetched (name : Text) (properties : Nat)
  | refreshIncomplete (kept lost : Nat)
  | persisted (path : Text) (databases : Nat)
  | refreshed (kept registered : Nat)
  /-- A command failed. -/
  | failed (message : Text)
  deriving DecidableEq

namespace LogEvent

def level : LogEvent → LogLevel
  | unparsedDate _ | impossibleDate _ | unchecked _ => .debug
  | queried .. | noSnapshot _ | fetched .. | persisted .. | refreshed .. => .info
  | fetchFailed .. | refreshIncomplete .. => .warning
  | failed _ => .error

def component : LogEvent → Text
  | unparsedDate _ | impossibleDate _ => "src.query.dates"
  | unchecked _ => "src.query.compiler"
  | queried .. => "src.notion.service"
  | noSnapshot _ | fetchFailed .. | fetched .. | refreshIncomplete .. | persisted .. =>
    "src.notion.store"
  | refreshed .. | failed _ => "src.cli"

/-- The message of an event. There is no clock here for the time that a query takes: the letter `N`
stands for the number of milliseconds. -/
def message : LogEvent → Text
  | unparsedDate none => "unparsed date text=None, using now"
  | unparsedDate (some t) => List.flatten ["unparsed date text=", t.quoted, ", using now"]
  | impossibleDate t => List.flatten ["invalid calendar date text=", t.quoted, ", using now"]
  | unchecked database =>
    List.flatten ["no cached schema for ", database, "; skipping validation"]
  | queried database filters results =>
    List.flatten ["queried database=", database, " filters=", Text.ofNat filters, " results=",
      Text.ofNat results, " latency_ms=N"]
  | noSnapshot path => "no cached schemas path=" ++ path
  | fetchFailed name id => List.flatten ["schema fetch failed name=", name, " id=", id]
  | fetched name properties =>
    List.flatten ["cached schema name=", name, " properties=", Text.ofNat properties]
  | refreshIncomplete kept lost =>
    List.flatten ["schema refresh incomplete fetched=", Text.ofNat kept, " failed=",
      Text.ofNat lost]
  | persisted path databases =>
    List.flatten ["persisted schema snapshot path=", path, " databases=", Text.ofNat databases]
  | refreshed kept registered =>
    List.flatten ["refreshed ", Text.ofNat kept, " of ", Text.ofNat registered,
      " database schemas"]
  | failed message => message

end LogEvent

/-- A value with the events that were reported on the way to it. -/
structure Logged (α : Type) where
  events : List LogEvent
  value : α

namespace Logged

instance : Monad Logged where
  pure a := ⟨[], a⟩
  bind x f := ⟨x.events ++ (f x.value).events, (f x.value).value⟩

@[simp] theorem pure_events {α : Type} (a : α) : (pure a : Logged α).events = [] := rfl

@[simp] theorem pure_value {α : Type} (a : α) : (pure a : Logged α).value = a := rfl

@[simp] theorem bind_events {α β : Type} (x : Logged α) (f : α → Logged β) :
    (x >>= f).events = x.events ++ (f x.value).events := rfl

@[simp] theorem bind_value {α β : Type} (x : Logged α) (f : α → Logged β) :
    (x >>= f).value = (f x.value).value := rfl

def report (e : LogEvent) : Logged Unit := ⟨[e], ()⟩

def withEvent {α : Type} (e : LogEvent) (a : α) : Logged α := ⟨[e], a⟩

end Logged

end SchemaQuery
