import SchemaQuery.CommandLine.Run
import Std.Time

/-!
# The program

Gathers what a run can ask for, runs, and puts into effect what the run did. There is no transport
here: to every request the service is unreachable.
-/

namespace SchemaQuery.Main

def shown (t : Text) : String := t.toString

def environmentOf (block : Bytes) : Entries Text :=
  (block.splitOn 0).filterMap fun bytes =>
    match Arguments.atEquals (Text.ofBytes bytes) with
    | (name, some value) => some (name, value)
    | (_, none) => none

def environment : IO (Entries Text) := do
  try
    return environmentOf (← IO.FS.readBinFile "/proc/self/environ").toList
  catch _ =>
    let names := ["NOTION_API_KEY", "NOTION_API_BASE", "NOTION_VERSION", "NOTION_TIMEOUT_S",
      "NOTION_CONFIG_PATH", "SCHEMA_CACHE_PATH", "LOG_LEVEL"]
    names.filterMapM fun name =>
      return (← IO.getEnv name).map fun value => (Text.ofString name, Text.ofString value)

def present : IO Moment := do
  let now ← Std.Time.DateTime.now
  let shift : Int := now.offset.second.val * 1000000
  let instant : Int := now.toTimestamp.toNanosecondsSinceUnixEpoch.val.fdiv 1000
  match Timestamp.ofEpoch (instant + shift) with
  | .ok moment => return { moment with offset := UtcOffset.of? shift }
  | .error _ => throw (IO.userError "the clock is outside of the calendar")

/-- The name of a location, or of a path by its steps. -/
def spelling (steps : List Text) : String := shown (FilePath.spelling steps)

def entryAt (name : String) : IO (Option FileEntry) := do
  try
    return some (.file (← IO.FS.readBinFile name).toList)
  catch
    | .inappropriateType .. => return some .directory
    | _ => return none

/-- Adds what is found on the way along a path. -/
def gather (files : FileSystem) (path : FilePath) : IO FileSystem := do
  let mut files := files
  for n in List.range path.steps.length do
    let steps := path.steps.take (n + 1)
    if let .ok location := files.locate steps then
      if (files.entry? location).isNone then
        if let some entry ← entryAt (spelling steps) then
          files := files.put location entry
  return files

/-- The files that a run can ask for. -/
def gatherAll (environment : Entries Text) (request : Option Text) : IO FileSystem := do
  let files ← gather .empty (.ofText ".env")
  let files ←
    match Settings.load environment files with
    | .ok settings => gather (← gather files settings.registryPath) settings.cachePath
    | .error _ => pure files
  match request with
  | some path => gather files (.verbatim path)
  | none => return files

/-- Writes what a run changed. A file is replaced as a whole. -/
def putBack (before after : FileSystem) : IO Unit := do
  for (location, entry) in after.entries do
    if before.entry? location ≠ some entry then
      let name := spelling location
      match entry with
      | .directory => IO.FS.createDirAll name
      | .file content =>
        let temporary := name ++ ".new"
        IO.FS.writeBinFile temporary ⟨content.toArray⟩
        IO.FS.rename temporary name

/-- The path of the request, if the arguments ask for one. -/
def requestPath (arguments : List Text) : Option Text :=
  match Arguments.read arguments with
  | .ok (.command (.compile source)) | .ok (.command (.query source)) => some source.path
  | _ => none

/-- What is said about a failure that is not reported. -/
def lastWords (f : Failure) : String :=
  let message? :=
    match f with
    | .settings e => e.message?
    | .logLevel name => some (LogSetup.unknownLevel name)
    | _ => none
  shown (message?.getD "the command could not be finished")

def line (now : Moment) (e : LogEvent) : String :=
  shown (Text.join " " [now.write, e.level.name, e.component, e.message])

end SchemaQuery.Main

open SchemaQuery in
def main (args : List String) : IO UInt32 := do
  let arguments := args.map Text.ofString
  let request := Main.requestPath arguments
  let environment ← Main.environment
  let files ← Main.gatherAll environment request
  let input ← if request = some "-" then (← IO.getStdin).readToEnd else pure ""
  let clock ← Main.present
  let run := Surroundings.run
    { environment, files, input, server := fun _ => .unreachable, clock } arguments
  Main.putBack files run.files
  let errors ← IO.getStderr
  for event in run.events do
    errors.putStrLn (Main.line clock event)
  match run.ending with
  | .usage e => errors.putStrLn (Main.shown e.message)
  | .broken f => errors.putStrLn (Main.lastWords f)
  | _ => pure ()
  IO.print (Main.shown run.output)
  return .ofNat run.ending.exitCode
