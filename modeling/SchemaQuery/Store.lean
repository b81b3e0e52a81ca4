import SchemaQuery.Client
import SchemaQuery.FileSystem
import SchemaQuery.Log
import SchemaQuery.Query.Compile
import SchemaQuery.Schema.Conversion

/-!
# The store of schemas

The store keeps the schemas of all databases in one file, and at hand once they have been loaded or
fetched. A refresh fetches every registered database anew. Databases that fail are left out, and the
file is replaced as a whole; when that does not succeed, the file and the schemas at hand stay.
-/

namespace SchemaQuery

structure SchemaStore where
  path : FilePath
  /-- How schemas are fetched; a store may only read. -/
  client : Option ApiConfig
  cache : SchemaCache

inductive ContentError where
  | notJson
  | tooLong (digits : Nat)
  | malformed (e : SnapshotError)

inductive LoadError where
  | file (path : Text) (e : FileError)
  /-- The file is no UTF-8 text. -/
  | undecodable
  | content (path : Text) (e : ContentError)

namespace LoadError

def message? : LoadError → Option Text
  | file path e => e.message? path
  | undecodable => none
  | content path _ => some ("Invalid schema snapshot: " ++ path)

end LoadError

inductive RefreshError where
  | cannotFetch
  | notWritten (path : Text) (e : FileError)
  /-- The file was not written, and the temporary file at the path could not be taken away. -/
  | notRemoved (temporary : Text) (e : FileError)

namespace RefreshError

def message? : RefreshError → Option Text
  | cannotFetch => some "refresh_all requires a schema fetcher"
  | notWritten path .embeddedNul => FileError.embeddedNul.message? path
  | notWritten _ .notEncodable => none
  | notWritten path _ => some ("Failed to write schema snapshot: " ++ path)
  | notRemoved temporary e => e.message? temporary

/-- The error about a file at a path. A temporary file is told by the way to it from the working
directory. -/
def ofReplace (path : Text) : FileSystem.ReplaceError → RefreshError
  | .failed e => notWritten path e
  | .notRemoved temporary e => notRemoved (FilePath.spelling temporary) e

end RefreshError

/-- The orders in which the fetches of a refresh, which run side by side, send their requests and
end. -/
structure Schedule where
  sent : Entries Text → Entries Text
  ended : Entries Text → Entries Text
  sent_perm : ∀ ids, (sent ids).Perm ids
  ended_perm : ∀ ids, (ended ids).Perm ids

def Schedule.inOrder : Schedule := ⟨id, id, List.Perm.refl, List.Perm.refl⟩

/-- What a refresh meets. Each fetch finds a server and a clock of its own. -/
structure Circumstances extends Schedule where
  /-- The server that the fetch of a named database finds. -/
  server : Text → Http.Server
  /-- The moment at which a named database has been fetched. -/
  clock : Text → Moment
  refused : Refusals

/-- What a refresh did: its calls in the order in which they were sent, and what came of them. -/
structure Refresh where
  calls : List Http.Request
  files : FileSystem
  store : SchemaStore
  result : Except RefreshError Snapshot

namespace SchemaStore

variable (s : SchemaStore)

/-- A store on a file, with nothing at hand yet. -/
def ofPath (path : FilePath) (client : Option ApiConfig) : SchemaStore := ⟨path, client, ⟨none⟩⟩

def find? (name : Text) : Option DatabaseSchema := s.cache.find? name

def get (name : Text) : Except CompileError DatabaseSchema :=
  match s.find? name with
  | some schema => .ok schema
  | none => .error (.unknownDatabase name)

def readContent (t : Text) : Except ContentError Snapshot :=
  match Json.read t with
  | .error .malformed => .error .notJson
  | .error (.tooLong digits) => .error (.tooLong digits)
  | .ok document =>
    match Snapshot.ofJson document with
    | .ok snapshot => .ok snapshot
    | .error e => .error (.malformed e)

/-- The snapshot in the file; none as long as there is no file. -/
def readSnapshot (refused : Refusals) (files : FileSystem) : Except LoadError (Option Snapshot) :=
  match refused.attempt .read (files.read s.path) with
  | .error .notFound => .ok none
  | .error e => .error (.file s.path.text e)
  | .ok bytes =>
    match Text.ofUtf8? .refused bytes with
    | none => .error .undecodable
    | some t =>
      match readContent t with
      | .ok snapshot => .ok (some snapshot)
      | .error e => .error (.content s.path.text e)

/-- Reads the file, which the system may refuse. What was at hand stays there unless a snapshot was
read. -/
def loadUnder (refused : Refusals) (files : FileSystem) :
    Logged (SchemaStore × Except LoadError (Option Snapshot)) :=
  match s.readSnapshot refused files with
  | .ok (some snapshot) => pure ({ s with cache := ⟨some snapshot⟩ }, .ok (some snapshot))
  | .ok none => .withEvent (.noSnapshot s.path.text) (s, .ok none)
  | .error e => pure (s, .error e)

def load (files : FileSystem) : Logged (SchemaStore × Except LoadError (Option Snapshot)) :=
  s.loadUnder .none files

def exchange (client : ApiConfig) (c : Circumstances) (name id : Text) : Exchange :=
  client.retrieve (c.server name) id

/-- The schema of one database, if it can be fetched and converted. -/
def fetchOne (client : ApiConfig) (c : Circumstances) (name id : Text) : Option DatabaseSchema :=
  match (exchange client c name id).result with
  | .error _ => none
  | .ok raw => (Conversion.schema name raw (c.clock name)).toOption

/-- The schemas of all databases that have one. -/
def fetchAll (client : ApiConfig) (c : Circumstances) (ids : Table Text) : Snapshot :=
  ids.filterMap (fetchOne client c)

def fetchEvent (name id : Text) : Option DatabaseSchema → LogEvent
  | some schema => .fetched name schema.properties.size
  | none => .fetchFailed name id

def fileText (snapshot : Snapshot) : Text := snapshot.toJson.writeIndented

def keep (refused : Refusals) (files : FileSystem) (snapshot : Snapshot) :
    Logged (FileSystem × SchemaStore × Except RefreshError Snapshot) :=
  match files.replaceFile refused s.path (fileText snapshot) with
  | (files, none) =>
    .withEvent (.persisted s.path.text snapshot.size)
      (files, { s with cache := ⟨some snapshot⟩ }, .ok snapshot)
  | (files, some e) => pure (files, s, .error (.ofReplace s.path.text e))

/-- Fetches the schemas of all databases and replaces the snapshot. -/
def refreshUnder (c : Circumstances) (files : FileSystem) (ids : Table Text) : Logged Refresh :=
  match s.client with
  | none => pure ⟨[], files, s, .error .cannotFetch⟩
  | some client => do
    (c.ended ids.entries).forM fun (name, id) =>
      Logged.report (fetchEvent name id (fetchOne client c name id))
    let snapshot := fetchAll client c ids
    let failed := ids.size - snapshot.size
    if failed ≠ 0 then Logged.report (.refreshIncomplete snapshot.size failed)
    let (files, store, result) ← s.keep c.refused files snapshot
    let calls := (c.sent ids.entries).filterMap fun (name, id) =>
      (exchange client c name id).request
    return ⟨calls, files, store, result⟩

end SchemaStore

end SchemaQuery
