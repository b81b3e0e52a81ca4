import SchemaQuery.FileSystem
import SchemaQuery.Json.Reader
import SchemaQuery.Registry

/-!
# The registry file

The registry is configured by a JSON file with an object `databases`, which sends names to objects
with an id.
-/

namespace SchemaQuery

inductive RegistryError where
  | file (path : Text) (e : FileError)
  /-- The file is no UTF-8 text. -/
  | undecodable
  | notJson (path : Text)
  | tooLong (digits : Nat)
  | wrongForm

namespace RegistryError

def message? : RegistryError → Option Text
  | file path e => e.message? path
  | undecodable => none
  | notJson path => some ("Registry config is not valid JSON: " ++ path)
  | tooLong digits => some (JsonError.tooLongMessage digits)
  | wrongForm => some "Unexpected config format: expected object with key 'databases'"

end RegistryError

namespace Registry

def ofJson (config : Json) : Except RegistryError Registry :=
  match ofJson? config with
  | some r => .ok r
  | none => .error .wrongForm

def ofText (path t : Text) : Except RegistryError Registry :=
  match Json.read t with
  | .error .malformed => .error (.notJson path)
  | .error (.tooLong digits) => .error (.tooLong digits)
  | .ok config => ofJson config

/-- Reads the registry file. A file that is no JSON is reported by the name that was given for it.
-/
def load (files : FileSystem) (path : FilePath) (given : Text) : Except RegistryError Registry :=
  match files.read path with
  | .error e => .error (.file path.text e)
  | .ok bytes =>
    match Text.ofUtf8? .refused bytes with
    | some t => ofText given t
    | none => .error .undecodable

end Registry

end SchemaQuery
