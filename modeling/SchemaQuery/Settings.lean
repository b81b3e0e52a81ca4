import SchemaQuery.Binary64.Reader
import SchemaQuery.Client
import SchemaQuery.EnvFile
import SchemaQuery.FileSystem
import SchemaQuery.Issue

/-!
# Settings

Settings come from environment variables, and from the file `.env` where the environment has none.
Names of variables are compared without regard to case. Every setting has a default value but the
key of the service, which only some commands need.
-/

namespace SchemaQuery

structure Settings where
  apiKey : Option Text
  apiBase : Text
  version : Text
  /-- The seconds that a call may take. -/
  timeout : Binary64
  registryPath : FilePath
  cachePath : FilePath
  logLevel : Text

inductive SettingsError where
  /-- The file `.env` is no UTF-8 text. -/
  | undecodable
  | invalid (issues : List Issue)

namespace SettingsError

def message? : SettingsError → Option Text
  | undecodable => none
  | invalid issues =>
    some ("Invalid environment configuration: " ++ reportIssues "Settings" issues)

end SettingsError

namespace Settings

/-- A name in small letters; the Kelvin sign is a K. -/
def lowered (name : Text) : Text :=
  name.map fun
    | .scalar c => .scalar (if c = '\u212A' then 'k' else c.toLower)
    | c => c

/-- The last value that is written under a name, whatever the case. -/
def last? {α : Type} (name : Text) (entries : Entries α) : Option α :=
  (entries.reverse.find? fun e => lowered e.1 = lowered name).map Prod.snd

/-- The value of a variable. The environment comes before the file. -/
def valueOf? (environment : Entries Text) (file : Entries (Option Text)) (name : Text) :
    Option Text :=
  (last? name environment).or ((last? name file).join)

/-- The seconds that a text gives, which must not be zero or less. -/
def checkTimeout (t : Text) : Checked Binary64 :=
  if !t.isScalar then .fault .notEncodable
  else
    match Binary64.read? t with
    | none => .fault .notNumber
    | some x => if x.isAtMostZero then .fault .notPositive else .valid x

def defaultTimeout : Binary64 := .ofDecimal false 10 0

def ofVariables (value? : Text → Option Text) : Checked Settings :=
  let timeout : Text := "NOTION_TIMEOUT_S"
  ((((value? timeout).map checkTimeout).getD (.valid defaultTimeout)).within (.key timeout)).map
    fun timeout =>
      { apiKey := value? "NOTION_API_KEY"
        apiBase := (value? "NOTION_API_BASE").getD "https://api.notion.com/v1"
        version := (value? "NOTION_VERSION").getD "2022-06-28"
        timeout
        registryPath := .ofText ((value? "NOTION_CONFIG_PATH").getD "notion-config.json")
        cachePath := .ofText ((value? "SCHEMA_CACHE_PATH").getD ".notion-cache/schemas.json")
        logLevel := (value? "LOG_LEVEL").getD "INFO" }

/-- The text of the file `.env`, which is empty when there is no such file. -/
def fileText? (files : FileSystem) : Option Text :=
  match files.read (.ofText ".env") with
  | .ok bytes => Text.ofUtf8? .refused bytes
  | .error _ => some []

def load (environment : Entries Text) (files : FileSystem) : Except SettingsError Settings :=
  match fileText? files with
  | none => .error .undecodable
  | some t =>
    match ofVariables (valueOf? environment (EnvFile.values environment t)) with
    | .valid s => .ok s
    | .invalid issues => .error (.invalid issues)

variable (s : Settings)

/-- How the service is reached; not without a key. -/
def apiConfig? : Option ApiConfig :=
  (s.apiKey.filter (· ≠ [])).map fun apiKey =>
    { apiKey, apiBase := s.apiBase, version := s.version, timeout := .decimal s.timeout }

def keyRequired : Text := "NOTION_API_KEY is required (set it in .env or environment)"

end Settings

end SchemaQuery
