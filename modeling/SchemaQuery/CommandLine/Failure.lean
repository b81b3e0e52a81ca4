import SchemaQuery.Request.Reader
import SchemaQuery.Registry.File
import SchemaQuery.Service
import SchemaQuery.Settings
import SchemaQuery.Store

/-!
# Failures of commands

A command can fail for any cause that its parts have. Most causes are expected: they are reported
with a message, and the program ends in good order. The others end it at once, without a report.
-/

namespace SchemaQuery

/-- What the key of the service is needed for. -/
inductive KeyUse where
  | refreshing
  | querying
  deriving DecidableEq

namespace KeyUse

def message : KeyUse → Text
  | refreshing => "NOTION_API_KEY is required to refresh schemas"
  | querying => "NOTION_API_KEY is required to execute queries"

end KeyUse

inductive Failure where
  | settings (e : SettingsError)
  /-- The name of a log level is none. -/
  | logLevel (name : Text)
  | registry (e : RegistryError)
  | requestFile (path : Text) (e : FileError)
  /-- The file of the request is no UTF-8 text. -/
  | requestUndecodable
  | request (e : RequestError)
  | load (e : LoadError)
  | refresh (e : RefreshError)
  | keyRequired (use : KeyUse)
  /-- The reference instant cannot be read. -/
  | unreadableNow (t : Text)
  | query (e : QueryError)
  /-- No schemas have been fetched yet. -/
  | nothingCached

namespace Failure

/-- What the file system says about a path, unless the path cannot be asked for. -/
def ofFile? (path : Text) : FileError → Option Text
  | .embeddedNul => none
  | e => e.message? path

def ofRegistry? : RegistryError → Option Text
  | .file path e => ofFile? path e
  | .undecodable | .tooLong _ => none
  | e => e.message?

def ofRequest? : RequestError → Option Text
  | .tooLong _ => none
  | e => some e.message

def ofLoad? : LoadError → Option Text
  | .file path e => ofFile? path e
  | e => e.message?

def ofRefresh? : RefreshError → Option Text
  | .notWritten _ .embeddedNul => none
  | .notRemoved temporary e => ofFile? temporary e
  | e => e.message?

def ofCall? : CallError → Option Text
  | .tooLong _ | .noScheme _ => none
  | e => e.message?

def ofQuery? : QueryError → Option Text
  | .compile (.unknownDatabase name) => some (unknownDatabase name)
  | .compile (.misfit e) => some e.message
  | .compile .pastCalendar => none
  | .call e => ofCall? e
  | .misuse _ => none

def unreadableNowMessage (t : Text) : Text := "--now must be an ISO date or datetime: " ++ t

/-- The message with which a failure is reported, if it is expected. -/
def report? : Failure → Option Text
  | settings _ | logLevel _ | requestUndecodable => none
  | registry e => ofRegistry? e
  | requestFile path e => ofFile? path e
  | request e => ofRequest? e
  | load e => ofLoad? e
  | refresh e => ofRefresh? e
  | keyRequired use => some use.message
  | unreadableNow t => some (unreadableNowMessage t)
  | query e => ofQuery? e
  | nothingCached => some "no cached schemas; run refresh-schemas first"

end Failure

end SchemaQuery
