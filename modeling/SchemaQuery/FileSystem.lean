import SchemaQuery.FilePath
import SchemaQuery.Text.Bytes
import SchemaQuery.Text.Quoted

/-!
# The file system

The files and directories that the program can reach, as a value. A location is the row of names
that leads from the working directory to an entry. Nothing is known of the directories above the
working directory, or of the root, except that they are there.
-/

namespace SchemaQuery

inductive FileError where
  | notFound
  | alreadyThere
  | notDirectory
  | isDirectory
  | nameTooLong
  | busy
  | notPermitted
  | noSpace
  /-- A path with the character NUL cannot even be asked for. -/
  | embeddedNul
  /-- A path or a content holds a surrogate and has no bytes. -/
  | notEncodable
  deriving DecidableEq

namespace FileError

/-- The message about an operation on a path, if there is one. The system has a number and a text
for each of its errors. -/
def message? (e : FileError) (path : Text) : Option Text :=
  let about (description : Text) : Option Text :=
    some (List.flatten [description, ": ", path.quoted])
  match e with
  | notFound => about "[Errno 2] No such file or directory"
  | alreadyThere => about "[Errno 17] File exists"
  | notDirectory => about "[Errno 20] Not a directory"
  | isDirectory => about "[Errno 21] Is a directory"
  | nameTooLong => about "[Errno 36] File name too long"
  | busy => about "[Errno 16] Device or resource busy"
  | notPermitted => about "[Errno 13] Permission denied"
  | noSpace => about "[Errno 28] No space left on device"
  | embeddedNul => some "embedded null byte"
  | notEncodable => none

end FileError

/-- The steps in which a file is read or replaced. The last two take a temporary file away that has
not come to its place. -/
inductive FileStep where
  | read
  /-- One directory that is missing, told by the steps that lead to it. -/
  | makeDirectory (steps : List Text)
  | openTemporary
  | write
  | flush
  | move
  | findTemporary
  | removeTemporary
  deriving DecidableEq

/-- The steps that the system refuses for reasons of its own, such as missing permissions or a full
disk, each with its error. -/
abbrev Refusals := FileStep → Option FileError

namespace Refusals

def none : Refusals := fun _ => .none

def attempt {α : Type} (refused : Refusals) (step : FileStep) (outcome : Except FileError α) :
    Except FileError α :=
  match refused step with
  | some e => .error e
  | .none => outcome

end Refusals

/-- The names that lead from the working directory to an entry, each in the spelling that shows it.
-/
abbrev Location := List Text

inductive FileEntry where
  | file (content : Bytes)
  | directory
  deriving DecidableEq

structure FileSystem where
  entries : List (Location × FileEntry)

namespace FileSystem

variable (fs : FileSystem)

def empty : FileSystem := ⟨[]⟩

instance : Inhabited FileSystem := ⟨empty⟩

/-- The working directory, those above it, and the root. -/
def isGiven (l : Location) : Bool := l.all (· = FilePath.above) || l = [FilePath.root]

def entry? (l : Location) : Option FileEntry :=
  if isGiven l then some .directory
  else (List.find? (fun e => e.1 = l) fs.entries).map Prod.snd

def put (l : Location) (e : FileEntry) : FileSystem :=
  if fs.entries.any fun old => old.1 = l then
    ⟨fs.entries.map fun old => if old.1 = l then (l, e) else old⟩
  else ⟨fs.entries ++ [(l, e)]⟩

def remove (l : Location) : FileSystem := ⟨fs.entries.filter fun e => !l.isPrefixOf e.1⟩

def up (l : Location) : Location :=
  if l = [FilePath.root] then l
  else if l.all (· = FilePath.above) then l ++ [FilePath.above]
  else l.dropLast

/-- Where one step leads from a directory. -/
def advance (l : Location) (step : Text) : Except FileError Location :=
  if step = FilePath.root then .ok [FilePath.root]
  else if step = FilePath.here then .ok l
  else if step = FilePath.above then .ok (up l)
  else if 255 < step.sizeInBytes then .error .nameTooLong
  else .ok (l ++ [step.asName])

/-- Follows steps from a location. Every step but the last has to lead to a directory. -/
def follow (l : Location) : List Text → Except FileError Location
  | [] => .ok l
  | step :: steps =>
    match fs.entry? l with
    | none => .error .notFound
    | some (.file _) => .error .notDirectory
    | some .directory =>
      match advance l step with
      | .ok next => follow next steps
      | .error e => .error e

/-- Whether the system can be asked about a path at all, given how it is spelled. -/
def checkSpelling (path : Text) : Except FileError Unit :=
  match path.bytes? with
  | none => .error .notEncodable
  | some bytes =>
    if bytes.contains 0 then .error .embeddedNul
    else if 4095 < bytes.length then .error .nameTooLong
    else .ok ()

def locate (steps : List Text) : Except FileError Location := do
  checkSpelling (FilePath.spelling steps)
  fs.follow [] steps

def read (p : FilePath) : Except FileError Bytes := do
  checkSpelling p.text
  match fs.entry? (← fs.locate p.steps) with
  | none => throw .notFound
  | some .directory => throw .isDirectory
  | some (.file content) => return content

def isDirectory (steps : List Text) : Bool :=
  match fs.locate steps with
  | .ok l => fs.entry? l = some .directory
  | .error _ => false

def makeDirectory (refused : Refusals) (steps : List Text) : Except FileError FileSystem := do
  let l ← fs.locate steps
  match fs.entry? l with
  | none => refused.attempt (.makeDirectory steps) (.ok (fs.put l .directory))
  | some _ => throw .alreadyThere

/-- Makes one directory; a directory that is there already will do. -/
def ensureDirectory (refused : Refusals) (steps : List Text) : FileSystem × Option FileError :=
  match fs.makeDirectory refused steps with
  | .ok made => (made, none)
  | .error e => (fs, if fs.isDirectory steps then none else some e)

/-- Makes a directory and those above it that are missing, the steps given backwards. -/
def ensureDirectories (refused : Refusals) : List Text → FileSystem × Option FileError
  | [] => fs.ensureDirectory refused []
  | step :: above =>
    match fs.makeDirectory refused (step :: above).reverse with
    | .error .notFound =>
      match ensureDirectories refused above with
      | (made, none) => made.ensureDirectory refused (step :: above).reverse
      | failed => failed
    | _ => fs.ensureDirectory refused (step :: above).reverse

def moveFile (source : Location) (p : FilePath) : Except FileError FileSystem := do
  checkSpelling p.text
  let target ← fs.locate p.steps
  match p.steps.getLast? with
  | none => throw .busy
  | some last =>
    if last = FilePath.root ∨ last = FilePath.here ∨ last = FilePath.above then throw .busy
    else
      match fs.entry? target, fs.entry? source with
      | some .directory, _ => throw .isDirectory
      | _, some moved => return (fs.remove source).put target moved
      | _, none => throw .notFound

def temporaryName (n : Nat) : Text := List.flatten [".schemas_", Text.padded 8 n, ".json"]

/-- A name under which there is nothing yet in a directory: one of the first numbers is free. -/
def freshName (directory : Location) : Text :=
  let names := (List.range (fs.entries.length + 1)).map temporaryName
  (names.find? fun name => (fs.entry? (directory ++ [name])).isNone).getD (temporaryName 0)

def encode (content : Text) : Except FileError Bytes :=
  match Text.utf8? content with
  | some bytes => .ok bytes
  | none => .error .notEncodable

/-- Where a new temporary file can be made in the directory that steps lead to. -/
def locateFresh (steps : List Text) : Except FileError Location := do
  let directory ← fs.locate steps
  fs.locate (steps ++ [fs.freshName directory])

/-- Takes a temporary file away. One that cannot even be looked for counts as gone, and stays. -/
def discard (refused : Refusals) (temporary : Location) : FileSystem × Option FileError :=
  match refused .findTemporary, refused .removeTemporary with
  | some _, _ => (fs, none)
  | none, some e => (fs, some e)
  | none, none => (fs.remove temporary, none)

inductive ReplaceError where
  | failed (e : FileError)
  /-- What was written could not be taken away either. -/
  | notRemoved (temporary : Location) (e : FileError)

/-- Ends a replacement that has failed. An error of taking the temporary file away comes before the
one that was there. -/
def abandon (refused : Refusals) (temporary : Location) (e : FileError) :
    FileSystem × Option ReplaceError :=
  match fs.discard refused temporary with
  | (fs, none) => (fs, some (.failed e))
  | (fs, some e) => (fs, some (.notRemoved temporary e))

/-- Writes a text to a new temporary file and moves that to where a path leads. Nothing is said of
the part that arrives of a text that cannot be written; the file stays empty here. -/
def replaceThrough (refused : Refusals) (p : FilePath) (temporary : Location) (content : Text) :
    FileSystem × Option ReplaceError :=
  let opened := fs.put temporary (.file [])
  match refused.attempt .write (encode content) with
  | .error e => opened.abandon refused temporary e
  | .ok bytes =>
    let written := opened.put temporary (.file bytes)
    match refused.attempt .flush (.ok ()) with
    | .error e => written.abandon refused temporary e
    | .ok () =>
      match refused.attempt .move (written.moveFile temporary p) with
      | .error e => written.abandon refused temporary e
      | .ok moved => (moved, none)

/-- Replaces a file as a whole: the text is written to a temporary file beside it, which then takes
its place. Missing directories are made. Whatever fails, the old file stays. -/
def replaceFile (refused : Refusals) (p : FilePath) (content : Text) :
    FileSystem × Option ReplaceError :=
  match fs.ensureDirectories refused p.parentSteps.reverse with
  | (fs, some e) => (fs, some (.failed e))
  | (fs, none) =>
    match refused.attempt .openTemporary (fs.locateFresh p.parentSteps) with
    | .error e => (fs, some (.failed e))
    | .ok temporary => fs.replaceThrough refused p temporary content

end FileSystem

end SchemaQuery
