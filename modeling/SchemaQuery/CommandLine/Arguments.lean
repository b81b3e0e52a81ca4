import SchemaQuery.CommandLine.Command
import SchemaQuery.Text.Digit

/-!
# Arguments

The command is the first argument that is no option, and all further arguments are its own. Long
options may be shortened and carry their value behind an equals sign. Behind `--` there are no
options any more. What nobody asked for is collected and refused in the end, after all else has been
found in order.
-/

namespace SchemaQuery

inductive Switch where
  | help
  | now
  deriving DecidableEq

/-- Why the arguments make no command. The errors of a command's own arguments know the command. -/
inductive UsageError where
  | commandRequired
  | unknownCommand (name : Text)
  | unrecognized (arguments : List Text)
  | valueRequired (command : CommandName)
  /-- A value was given to the option that asks for help. -/
  | needlessValue (command : Option CommandName) (value : Text)
  | ambiguous (command : Option CommandName) (argument : Text) (candidates : List Text)
  deriving DecidableEq

inductive Invocation where
  /-- Help about the program, or about one command. -/
  | help (command : Option CommandName)
  | command (c : Command)
  deriving DecidableEq

/-- What the program is called, alone or with a command. -/
def programName : Option CommandName → Text
  | none => "notion-query"
  | some command => "notion-query " ++ command.text

namespace UsageError

/-- How a message begins: with the program, and the command if one is concerned. -/
def speaker (command : Option CommandName) : Text := programName command ++ ": error: "

def message : UsageError → Text
  | commandRequired => speaker none ++ "the following arguments are required: command"
  | unknownCommand name =>
    List.flatten [speaker none, "argument command: invalid choice: ", name.quoted, " (choose from ",
      Text.join ", " (CommandName.all.map (·.text.quoted)), ")"]
  | unrecognized arguments =>
    List.flatten [speaker none, "unrecognized arguments: ", Text.join " " arguments]
  | valueRequired command => speaker (some command) ++ "argument --now: expected one argument"
  | needlessValue command value =>
    List.flatten [speaker command, "argument -h/--help: ignored explicit argument ", value.quoted]
  | ambiguous command argument candidates =>
    List.flatten [speaker command, "ambiguous option: ", argument, " could match ",
      Text.join ", " candidates]

end UsageError

namespace Arguments

/-- What an argument carries beside the name of an option. -/
inductive Attached where
  | nothing
  /-- A value behind an equals sign. -/
  | assigned (value : Text)
  /-- What stands behind a short option, with or without an equals sign. It can begin with the
  letters of more short options. -/
  | letters (t : Text)
  deriving DecidableEq

inductive Shape where
  | plain
  | switch (s : Switch) (a : Attached)
  | unknown
  | ambiguous (candidates : List Text)
  /-- The argument `--`. -/
  | stop
  deriving DecidableEq

abbrev Options := List (Text × Switch)

def helpOptions : Options := [("-h", .help), ("--help", .help)]

def requestOptions : Options := [("-h", .help), ("--help", .help), ("--now", .now)]

def optionsOf (command : CommandName) : Options :=
  if command.takesRequest then requestOptions else helpOptions

def atEquals (t : Text) : Text × Option Text :=
  match t.span (· ≠ .scalar '=') with
  | (name, _ :: value) => (name, some value)
  | (name, []) => (name, none)

/-- What an argument carries that may have a value behind an equals sign. -/
def Attached.ofValue : Option Text → Attached
  | some value => .assigned value
  | none => .nothing

/-- What an argument carries that gives a value to an option by its name. -/
def Attached.ofNamed (name value : Text) : Attached :=
  if name.startsWith "--" then .assigned value else .letters value

/-- Whether what follows a hyphen makes a negative number of it. A line break may follow. -/
def isNumeral (t : Text) : Bool :=
  let t := if t.getLast? = some (.scalar '\n') then t.dropLast else t
  let rest := t.dropWhile CodePoint.isDecimalDigit
  match rest with
  | [] => !t.isEmpty
  | .scalar '.' :: decimals => !decimals.isEmpty && decimals.all CodePoint.isDecimalDigit
  | _ => false

/-- The options that an argument can be short for. A single hyphen is followed by one letter. -/
def candidates (options : Options) (argument : Text) : List (Text × Switch × Attached) :=
  if argument.startsWith "--" then
    let (name, value) := atEquals argument
    (options.filter fun o => o.1.startsWith name).map fun (name, s) => (name, s, .ofValue value)
  else
    (options.filter fun o => o.1 = argument.take 2).map fun (name, s) =>
      (name, s, .letters (argument.drop 2))

def named? (options : Options) (argument : Text) : Option Shape :=
  match options.lookup argument, atEquals argument with
  | some s, _ => some (.switch s .nothing)
  | none, (name, some value) =>
    (options.lookup name).map fun s => .switch s (.ofNamed name value)
  | none, (_, none) => none

def shape (options : Options) (argument : Text) : Shape :=
  if ¬argument.startsWith "-" ∨ argument = "-" then .plain
  else
    match named? options argument with
    | some found => found
    | none =>
      match candidates options argument with
      | [] =>
        if isNumeral (argument.drop 1) ∨ argument.contains (.scalar ' ') then .plain else .unknown
      | [(_, s, a)] => .switch s a
      | several => .ambiguous (several.map Prod.fst)

def shaped (options : Options) : List Text → List (Text × Shape)
  | [] => []
  | argument :: arguments =>
    if argument = "--" then (argument, .stop) :: arguments.map (·, .plain)
    else (argument, shape options argument) :: shaped options arguments

/-- The arguments with their shapes, when none is ambiguous. -/
def shaped? (command : Option CommandName) (options : Options) (arguments : List Text) :
    Except UsageError (List (Text × Shape)) :=
  let found := shaped options arguments
  match found.findSome? fun
    | (argument, .ambiguous candidates) => some (UsageError.ambiguous command argument candidates)
    | _ => none with
  | some e => .error e
  | none => .ok found

/-- The value that is in the way of help. The one short option may be repeated, letter by letter. -/
def Attached.needless? : Attached → Option Text
  | nothing => none
  | assigned value => some value
  | letters t =>
    match t.dropWhile (· = .scalar 'h') with
    | [] => if t = [] then some [] else none
    | value => some value

/-- Asks for help, unless a value is in the way. -/
def askHelp (command : Option CommandName) (a : Attached) : Except UsageError Invocation :=
  match a.needless? with
  | none => .ok (.help command)
  | some value => .error (.needlessValue command value)

/-- The value of an option behind its equals sign. The mark `--` does not count. -/
def assignedValue? (value : Text) : Option Text := if value = "--" then none else some value

/-- What has been found of a command's arguments. -/
structure Progress where
  /-- The request, once it has been found; none also for a command that takes none. -/
  request : Option Text
  /-- Whether a request may still come. -/
  awaiting : Bool
  now : Option Text
  /-- Arguments that nobody asked for. -/
  extras : List Text

def readOwn (command : CommandName) (p : Progress) :
    List (Text × Shape) → Except UsageError Invocation
  | [] =>
    if p.extras = [] then
      .ok (.command (.ofName command ⟨p.request.getD "-", p.now⟩))
    else .error (.unrecognized p.extras)
  | (_, .switch .help a) :: _ => askHelp (some command) a
  | (_, .switch .now (.assigned value)) :: rest =>
    readOwn command { p with now := assignedValue? value } rest
  | (_, .switch .now _) :: (value, .plain) :: rest =>
    readOwn command { p with now := some value } rest
  | (_, .switch .now _) :: _ => .error (.valueRequired command)
  | (argument, .plain) :: (mark, .stop) :: rest =>
    if p.awaiting then
      readOwn command { p with request := some argument, awaiting := false } rest
    else readOwn command { p with extras := p.extras ++ [argument, mark] } rest
  | (argument, .plain) :: rest =>
    if p.awaiting then
      readOwn command { p with request := some argument, awaiting := false } rest
    else readOwn command { p with extras := p.extras ++ [argument] } rest
  | (mark, .stop) :: (argument, shape) :: rest =>
    if p.awaiting then
      readOwn command { p with request := some argument, awaiting := false } rest
    else readOwn command { p with extras := p.extras ++ [mark] } ((argument, shape) :: rest)
  | [(mark, .stop)] =>
    if p.awaiting then readOwn command { p with awaiting := false } []
    else readOwn command { p with extras := p.extras ++ [mark] } []
  | (argument, .unknown) :: rest | (argument, .ambiguous _) :: rest =>
    readOwn command { p with extras := p.extras ++ [argument] } rest

/-- Reads the arguments behind the name of a command. -/
def readCommand (extras : List Text) (name : Text) (arguments : List Text) :
    Except UsageError Invocation :=
  match CommandName.ofText? name with
  | none => .error (.unknownCommand name)
  | some command =>
    match shaped? (some command) (optionsOf command) arguments with
    | .error e => .error e
    | .ok found => readOwn command ⟨none, command.takesRequest, none, extras⟩ found

/-- Reads arguments up to the name of a command. -/
def readFrom (extras : List Text) : List (Text × Shape) → Except UsageError Invocation
  | [] => .error .commandRequired
  | (_, .switch _ a) :: _ => askHelp none a
  | (argument, .unknown) :: rest | (argument, .ambiguous _) :: rest =>
    readFrom (extras ++ [argument]) rest
  | (name, .plain) :: rest => readCommand extras name (rest.map Prod.fst)
  | (_, .stop) :: [] => .error .commandRequired
  | (mark, .stop) :: _ => .error (.unknownCommand mark)

def read (arguments : List Text) : Except UsageError Invocation :=
  match shaped? none helpOptions arguments with
  | .error e => .error e
  | .ok found => readFrom [] found

end Arguments

end SchemaQuery
