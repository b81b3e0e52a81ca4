import SchemaQuery.CommandLine.Arguments

/-!
# Help

Help is about the program or about one of its commands. It names the options and arguments with what
they are for, in two columns of a window that is 80 characters wide.
-/

namespace SchemaQuery.Help

def row (indent width : Nat) (name description : Text) : Text :=
  let blanks (n : Nat) : Text := List.replicate n (.scalar ' ')
  List.flatten [blanks indent, name, blanks (width - indent - name.length), description, "\n"]

def helpRow (width : Nat) : Text := row 2 width "-h, --help" "show this help message and exit"

def choices : Text :=
  List.flatten ["\x7b", Text.join "," (CommandName.all.map (·.text)), "\x7d"]

def ofProgram : Text := List.flatten [
  "usage: ", programName none, " [-h] ", choices, " ...\n\n",
  "Compile and run structured Notion database queries.\n\n",
  "positional arguments:\n  ", choices, "\n",
  List.flatten (CommandName.all.map fun command => row 4 24 command.text command.summary),
  "\noptions:\n", helpRow 24]

def ofCommand (command : CommandName) : Text :=
  if command.takesRequest then List.flatten [
    "usage: ", programName (some command), " [-h] [--now NOW] [request]\n\n",
    "positional arguments:\n",
    row 2 14 "request" "Path to the query request JSON ('-' or omitted: stdin).",
    "\noptions:\n", helpRow 14,
    row 2 14 "--now NOW" "Reference date/time (ISO 8601); defaults to the current time."]
  else List.flatten [
    "usage: ", programName (some command), " [-h]\n\noptions:\n", helpRow 14]

def text : Option CommandName → Text
  | none => ofProgram
  | some command => ofCommand command

end SchemaQuery.Help
