import SchemaQuery.Calendar.Iso
import SchemaQuery.CommandLine.Arguments
import SchemaQuery.CommandLine.Failure
import SchemaQuery.CommandLine.Help
import SchemaQuery.Log.Setup
import SchemaQuery.Schema.Description

/-!
# Running commands

A run is a function of what it finds around it. It tells how the program ends, what it prints and
reports, which calls it makes, and what the files are afterwards. Nothing is printed unless the
command succeeds. Only refreshing writes files.

The standard streams are texts: the input is one that has been decoded, and the output takes every
text, also one with a lone surrogate that an encoder would refuse. Files refuse nothing to a run of
their own, such as for missing permissions.
-/

namespace SchemaQuery

/-- What a run finds around it. -/
structure Surroundings where
  environment : Entries Text
  files : FileSystem
  /-- The standard input, as it was decoded. -/
  input : Text
  server : Http.Server
  clock : Moment
  schedule : Schedule := .inOrder

/-- What commands share once the program has started. -/
structure Workspace where
  client : Option ApiConfig
  registry : Registry
  store : SchemaStore

/-- What a command did: its calls, the files that it leaves, and what it prints. -/
structure Deed where
  calls : List Http.Request
  files : FileSystem
  result : Except Failure Text

namespace Surroundings

variable (s : Surroundings)

def settings : Except Failure (Settings × LogSetup) :=
  match Settings.load s.environment s.files with
  | .error e => .error (.settings e)
  | .ok settings =>
    match LogSetup.ofNames (some settings.logLevel) (s.environment.find? "LOG_LEVEL") with
    | .error name => .error (.logLevel name)
    | .ok setup => .ok (settings, setup)

def workspace (settings : Settings) : Except Failure Workspace :=
  let client := settings.apiConfig?
  match Registry.load s.files settings.registryPath settings.registryPath.text with
  | .error e => .error (.registry e)
  | .ok registry => .ok ⟨client, registry, .ofPath settings.cachePath client⟩

/-- The text of a request: that of a file, or the standard input. -/
def requestText (path : Text) : Except Failure Text :=
  if path = "-" then .ok s.input
  else
    match s.files.read (.verbatim path) with
    | .error e => .error (.requestFile path e)
    | .ok bytes =>
      match Text.ofUtf8? .refused bytes with
      | some t => .ok t
      | none => .error .requestUndecodable

def request (path : Text) : Except Failure QueryRequest :=
  match s.requestText path with
  | .error f => .error f
  | .ok t =>
    match Request.read t with
    | .error e => .error (.request e)
    | .ok r => .ok r

/-- The reference instant: the one that was typed, or the present one. -/
def now (typed : Option Text) : Except Failure Moment :=
  match typed.filter (· ≠ []) with
  | none => .ok s.clock
  | some t =>
    match Moment.read? t with
    | some m => .ok m
    | none => .error (.unreadableNow t)

/-- What a refresh meets in a run. -/
def circumstances : Circumstances :=
  { s.schedule with server := fun _ => s.server, clock := fun _ => s.clock, refused := .none }

/-- A deed that leaves the files as they are and makes no call. -/
def quietly (result : Except Failure Text) : Deed := ⟨[], s.files, result⟩

end Surroundings

namespace Workspace

variable (w : Workspace) (s : Surroundings)

def compiler (store : SchemaStore) : Compiler := ⟨w.registry, some store.cache⟩

def refresh : Logged Deed :=
  match w.client with
  | none => pure (s.quietly (.error (.keyRequired .refreshing)))
  | some _ => do
    let done ← w.store.refreshUnder s.circumstances s.files w.registry.ids
    match done.result with
    | .error e => return ⟨done.calls, done.files, .error (.refresh e)⟩
    | .ok snapshot =>
      Logged.report (.refreshed snapshot.size w.registry.ids.size)
      return ⟨done.calls, done.files, .ok []⟩

/-- Reads the request and the cached schemas that it is to be compiled with. -/
def prepare (path : Text) : Logged (Except Failure (QueryRequest × SchemaStore)) :=
  match s.request path with
  | .error f => pure (.error f)
  | .ok request => do
    match ← w.store.load s.files with
    | (_, .error e) => return .error (.load e)
    | (store, .ok _) => return .ok (request, store)

def compileText (source : RequestSource) : Logged (Except Failure Text) := do
  match ← w.prepare s source.path with
  | .error f => return .error f
  | .ok (r, store) =>
    match s.now source.now with
    | .error f => return .error f
    | .ok now =>
      match ← (w.compiler store).compile r.database r.filters r.sort now with
      | .error e => return .error (.query (.compile e))
      | .ok query => return .ok (query.toJson.writeIndented ++ "\n")

def query (source : RequestSource) : Logged Deed := do
  match ← w.prepare s source.path with
  | .error f => return s.quietly (.error f)
  | .ok (r, store) =>
    match w.client, s.now source.now with
    | none, _ => return s.quietly (.error (.keyRequired .querying))
    | some _, .error f => return s.quietly (.error f)
    | some client, .ok now =>
      let done ← (w.compiler store).execute client s.server r now
      match done.result with
      | .error e => return ⟨done.call.toList, s.files, .error (.query e)⟩
      | .ok result => return ⟨done.call.toList, s.files, .ok (result.formatted ++ "\n")⟩

def describe : Logged (Except Failure Text) := do
  match ← w.store.load s.files with
  | (_, .error e) => return .error (.load e)
  | (_, .ok none) => return .error .nothingCached
  | (_, .ok (some snapshot)) => return .ok (snapshot.describe ++ "\n")

def perform : Command → Logged Deed
  | .refreshSchemas => w.refresh s
  | .compile source => return s.quietly (← w.compileText s source)
  | .query source => w.query s source
  | .describe => return s.quietly (← w.describe s)

end Workspace

inductive Ending where
  | success
  /-- Only help was asked for. -/
  | help
  /-- The command failed, and the failure was reported. -/
  | failure
  | usage (e : UsageError)
  /-- The command failed for a cause that is not expected. -/
  | broken (f : Failure)

namespace Ending

def exitCode : Ending → Nat
  | success | help => 0
  | failure | broken _ => 1
  | usage _ => 2

end Ending

structure Run where
  ending : Ending
  /-- What is printed on the standard output, which takes every text. -/
  output : Text
  /-- The events that the log shows. -/
  events : List LogEvent
  calls : List Http.Request
  files : FileSystem

namespace Run

/-- The run of a command that did something under some setup of the log. -/
def ofDeed (setup : LogSetup) (done : Logged Deed) : Run :=
  let run (ending : Ending) (output : Text) (events : List LogEvent) : Run :=
    ⟨ending, output, events.filter setup.shows, done.value.calls, done.value.files⟩
  match done.value.result with
  | .ok text => run .success text done.events
  | .error f =>
    match f.report? with
    | some message => run .failure [] (done.events ++ [.failed message])
    | none => run (.broken f) [] done.events

end Run

namespace Surroundings

variable (s : Surroundings)

/-- A run that ends before any command has begun. -/
def idle (ending : Ending) (output : Text) : Run := ⟨ending, output, [], [], s.files⟩

def runCommand (command : Command) : Run :=
  match s.settings with
  | .error f => s.idle (.broken f) []
  | .ok (settings, setup) =>
    .ofDeed setup <|
      match s.workspace settings with
      | .error f => pure (s.quietly (.error f))
      | .ok workspace => workspace.perform s command

def run (arguments : List Text) : Run :=
  match Arguments.read arguments with
  | .error e => s.idle (.usage e) []
  | .ok (.help command) => s.idle .help (Help.text command)
  | .ok (.command command) => s.runCommand command

end Surroundings

end SchemaQuery
