import SchemaQuery.Text

/-!
# File paths

A path is shown as a text and followed step by step. Settings give paths in their shortest spelling,
without empty steps and dots; a path that a user types is followed and shown as it stands.
-/

namespace SchemaQuery

structure FilePath where
  /-- How the path is shown. -/
  text : Text
  /-- The names to go through, the first being `/` in an absolute path. -/
  steps : List Text
  deriving DecidableEq

namespace FilePath

def root : Text := "/"

def here : Text := "."

def above : Text := ".."

/-- The path in its shortest spelling. Two slashes in front are kept as two, any other number of
them as one. -/
def ofText (t : Text) : FilePath :=
  let slashes := (t.takeWhile (· = .scalar '/')).length
  let start : Text := if slashes = 0 then [] else if slashes = 2 then "//" else "/"
  let names := (Text.splitAtMark (.scalar '/') t).filter fun name => name ≠ [] ∧ name ≠ here
  { text := if start = [] ∧ names = [] then here else start ++ Text.join "/" names
    steps := if slashes = 0 then names else root :: names }

/-- The path as it stands. The empty path leads nowhere, and a slash at the end asks for a
directory. -/
def verbatim (t : Text) : FilePath :=
  let names := (Text.splitAtMark (.scalar '/') t).filter (· ≠ [])
  let ending := if t.getLast? = some (.scalar '/') then [here] else []
  { text := t
    steps :=
      if t = [] then [[]]
      else if t.head? = some (.scalar '/') then root :: names ++ ending
      else names ++ ending }

/-- How the system is asked about steps. -/
def spelling (steps : List Text) : Text :=
  match steps with
  | [] => here
  | step :: names =>
    if step = root then root ++ Text.join "/" names else Text.join "/" steps

/-- The path to the directory that holds the last step. -/
def parentSteps (p : FilePath) : List Text :=
  if p.steps = [root] then p.steps else p.steps.dropLast

end FilePath

end SchemaQuery
