import SchemaQuery.Table
import SchemaQuery.Text.Blank

/-!
# Environment files

A file of lines `NAME=value` that stand in for environment variables. A value may be quoted, and
then go on over line breaks and have escapes; comments begin with a number sign. A line that is
formed otherwise is left out, and reading goes on behind it. A value may refer to other variables,
those further up in the file before those of the environment.
-/

namespace SchemaQuery.EnvFile

/-- A name, and the value that it is given if any. -/
structure Assignment where
  name : Text
  value : Option Text
  deriving DecidableEq

/-- A part of a file and the rest behind it, or the place where no such part could be read. -/
abbrev Reading (α : Type) := Except Text (α × Text)

/-- Line breaks of every kind as line feeds. -/
def unifiedLines : Text → Text
  | [] => []
  | c :: t =>
    if c = .scalar '\r' then
      match t with
      | .scalar '\n' :: rest => .scalar '\n' :: unifiedLines rest
      | t => .scalar '\n' :: unifiedLines t
    else c :: unifiedLines t

def isInlineBlank (c : CodePoint) : Bool := c.isBlank && c ≠ .scalar '\n'

def skipBlanks (t : Text) : Text := t.dropWhile isInlineBlank

def nextLine (t : Text) : Text := (t.dropWhile (· ≠ .scalar '\n')).drop 1

/-- The text in quotes, from behind the opening mark on, and what follows the closing one. A
backslash takes the character behind it along, be it a mark or another backslash. -/
def quoted? (mark : CodePoint) : Text → Option (Text × Text)
  | [] => none
  | .scalar '\\' :: c :: t =>
    (quoted? mark t).map fun (inner, rest) => (.scalar '\\' :: c :: inner, rest)
  | c :: t =>
    if c = mark then some ([], t)
    else (quoted? mark t).map fun (inner, rest) => (c :: inner, rest)

def singleEscape? : CodePoint → Option Char
  | .scalar '\\' => some '\\'
  | .scalar '\x27' => some '\x27'
  | _ => none

def doubleEscape? : CodePoint → Option Char
  | .scalar '\\' => some '\\'
  | .scalar '\x27' => some '\x27'
  | .scalar '"' => some '"'
  | .scalar 'a' => some '\x07'
  | .scalar 'b' => some '\x08'
  | .scalar 'f' => some '\x0c'
  | .scalar 'n' => some '\n'
  | .scalar 'r' => some '\r'
  | .scalar 't' => some '\t'
  | .scalar 'v' => some '\x0b'
  | _ => none

/-- Replaces escapes. A backslash that begins none stays. -/
def unescaped (escape? : CodePoint → Option Char) : Text → Text
  | [] => []
  | [c] => [c]
  | c :: d :: t =>
    if c = .scalar '\\' then
      match escape? d with
      | some e => .scalar e :: unescaped escape? t
      | none => c :: unescaped escape? (d :: t)
    else c :: unescaped escape? (d :: t)

/-- A line without its comment, which begins with blanks and a number sign. -/
def uncommented : Text → Text
  | [] => []
  | c :: t =>
    if c.isBlank && (t.dropWhile CodePoint.isBlank).head? = some (.scalar '#') then []
    else c :: uncommented t

/-- A name may be written in single quotes. In the place of a name there may be a comment. -/
def name (t : Text) : Reading (Option Text) :=
  match t with
  | .scalar '#' :: _ => .ok (none, t)
  | .scalar '\x27' :: inner =>
    match inner.span (· ≠ .scalar '\x27') with
    | (c :: cs, _ :: rest) => .ok (some (c :: cs), rest)
    | _ => .error t
  | _ =>
    match t.span fun c => c ≠ .scalar '=' && c ≠ .scalar '#' && !c.isBlank with
    | ([], _) => .error t
    | (found, rest) => .ok (some found, rest)

/-- The value behind an equals sign. A comment may begin with the blanks in front of the value. -/
def value (t : Text) : Reading Text :=
  match skipBlanks t with
  | .scalar '\x27' :: inner =>
    match quoted? (.scalar '\x27') inner with
    | some (found, rest) => .ok (unescaped singleEscape? found, rest)
    | none => .error (skipBlanks t)
  | .scalar '"' :: inner =>
    match quoted? (.scalar '"') inner with
    | some (found, rest) => .ok (unescaped doubleEscape? found, rest)
    | none => .error (skipBlanks t)
  | _ =>
    let (line, rest) := t.span (· ≠ .scalar '\n')
    .ok ((uncommented line).strippedBlanks, rest)

/-- What follows a line of which only blanks and a comment are left. -/
def lineEnd (t : Text) : Except Text Text :=
  let comment := skipBlanks t
  let t := if comment.startsWith "#" then comment.dropWhile (· ≠ .scalar '\n') else comment
  match t with
  | [] => .ok []
  | .scalar '\n' :: rest => .ok rest
  | _ => .error t

/-- The word `export` and blanks may stand before a name. -/
def withoutExport (t : Text) : Text :=
  match Text.after? "export" t with
  | some (c :: rest) => if isInlineBlank c then skipBlanks rest else t
  | _ => t

def assignment (t : Text) : Except Text (Option Assignment × Text) := do
  let (name, t) ← name (withoutExport t)
  let (value, t) ←
    match skipBlanks t with
    | .scalar '=' :: t => (value t).map fun (v, t) => (some v, t)
    | t => .ok (none, t)
  return (name.map (⟨·, value⟩), ← lineEnd t)

/-- The assignments in a text. A line that cannot be read is left from where reading stopped. -/
def assignments (t : Text) : List Assignment :=
  let line := t.dropWhile CodePoint.isBlank
  let (found, rest) :=
    match assignment line with
    | .ok read => read
    | .error place => (none, nextLine place)
  if rest.length < line.length then found.toList ++ assignments rest else []
termination_by t.length
decreasing_by
  exact Nat.lt_of_lt_of_le ‹_› (List.dropWhile_suffix CodePoint.isBlank).length_le

/-- A reference to a variable, from behind its opening brace on: the name, the text that stands in
for the variable, and the rest. -/
def reference? (t : Text) : Option (Text × Text × Text) :=
  match t.span fun c => c ≠ .scalar '\x7d' && c ≠ .scalar ':' with
  | (name, .scalar '\x7d' :: rest) => some (name, [], rest)
  | (name, .scalar ':' :: .scalar '-' :: t) =>
    match t.span (· ≠ .scalar '\x7d') with
    | (standIn, _ :: rest) => some (name, standIn, rest)
    | _ => none
  | _ => none

/-- A value with every reference replaced by what `look` finds for its name and stand-in. -/
def expanded (look : Text → Text → Text) : Text → Text
  | [] => []
  | c :: t =>
    match if c = .scalar '$' then (Text.after? "\x7b" t).bind reference? else none with
    | some (name, standIn, rest) =>
      look name standIn ++ if rest.length ≤ t.length then expanded look rest else []
    | none => c :: expanded look t
termination_by t => t.length

/-- What a name stands for. A name that the file leaves without a value stands for nothing. -/
def lookUp (environment : Entries Text) (known : Entries (Option Text)) (name standIn : Text) :
    Text :=
  match known.find? name with
  | some value => value.getD []
  | none => (environment.find? name).getD standIn

def values (environment : Entries Text) (t : Text) : Entries (Option Text) :=
  (assignments (unifiedLines (Text.without [.scalar '\uFEFF'] t))).foldl
    (fun known a => known.insert a.name (a.value.map (expanded (lookUp environment known)))) []

end SchemaQuery.EnvFile
