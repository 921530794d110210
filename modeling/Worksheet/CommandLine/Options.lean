import Worksheet.Text.Blank
import Worksheet.Text.Split

/-! What a command line asks for, read from its arguments one after the other. -/

namespace Worksheet.CommandLine

/-- The options that take the next argument as their value. -/
inductive Valued
  | edit
  | command
  | output
  | config
deriving DecidableEq

/-- The options that stand alone. -/
inductive Switch
  | print
  | noConfig
deriving DecidableEq

/-- The option that takes a value and has a spelling. -/
def Valued.ofSpelling? : String → Option Valued
  | "-s" => some edit
  | "--set" => some edit
  | "-c" => some command
  | "--command" => some command
  | "-o" => some output
  | "--output" => some output
  | "--config" => some config
  | _ => none

/-- The option that stands alone and has a spelling. -/
def Switch.ofSpelling? : String → Option Switch
  | "-p" => some print
  | "--print" => some print
  | "--no-config" => some noConfig
  | _ => none

/-- Whether an argument asks for help. -/
def isHelp (argument : String) : Bool :=
  argument = "-h" || argument = "--help"

/-- Why arguments are refused. -/
inductive UsageError
  | missingValue (option : Valued)
  | notAnEdit (argument : String)
  | unknownOption (argument : String)
  | unexpectedArgument (argument : String)
deriving DecidableEq

/-- The words for refused arguments. -/
def UsageError.message : UsageError → String
  | missingValue .edit => "--set requires NAME=CONTENT"
  | missingValue .command => "--command requires a formula"
  | missingValue .output => "--output requires a file path"
  | missingValue .config => "--config requires a file path"
  | notAnEdit argument => s!"Expected NAME=CONTENT, got: {argument}"
  | unknownOption argument => s!"Unknown option: {argument}"
  | unexpectedArgument argument => s!"Unexpected argument: {argument}"

/-- The document to open, the edits in order, a formula to evaluate, and where to read preferences
and to save. -/
structure Options where
  file : Option String
  edits : List (String × String)
  command : Option String
  print : Bool
  output : Option String
  config : Option String
  noConfig : Bool
deriving DecidableEq

namespace Options

/-- Nothing is asked for. -/
def empty : Options :=
  ⟨none, [], none, false, none, none, false⟩

/-- Whether there is nothing to do. -/
def isIdle (options : Options) : Bool :=
  options.file.isNone && options.edits.isEmpty && options.command.isNone && !options.print

/-- Whether every cell is to be printed, which a run does that has nothing else to show. -/
def printsCells (options : Options) : Bool :=
  options.print ||
    (options.edits.isEmpty && options.command.isNone && options.output.isNone)

/-- The name of a cell and its new contents, with the first equals sign between them. -/
def edit? (argument : String) : Option (String × String) :=
  match argument.toList.dropWhile (· ≠ '=') with
  | '=' :: content =>
    let name := argument.toList.takeWhile (· ≠ '=')
    some (String.ofList (Text.trimBlanks name), String.ofList content)
  | _ => none

/-- Takes an option with its value. -/
def take (options : Options) (value : String) : Valued → Except UsageError Options
  | .edit =>
    match edit? value with
    | some edit => .ok { options with edits := options.edits ++ [edit] }
    | none => .error (.notAnEdit value)
  | .command => .ok { options with command := some value }
  | .output => .ok { options with output := some value }
  | .config => .ok { options with config := some value }

/-- Takes an option that stands alone. -/
def switch (options : Options) : Switch → Options
  | .print => { options with print := true }
  | .noConfig => { options with noConfig := true }

/-- Takes an argument that is neither an option nor its value. -/
def takeFile (options : Options) (argument : String) : Except UsageError Options :=
  if argument.startsWith '-' then .error (.unknownOption argument)
  else if options.file.isSome then .error (.unexpectedArgument argument)
  else .ok { options with file := some argument }

/-- Takes arguments one after the other. -/
def takeAll (options : Options) : List String → Except UsageError Options
  | [] => .ok options
  | argument :: rest =>
    match Valued.ofSpelling? argument, Switch.ofSpelling? argument, rest with
    | some option, _, value :: rest =>
      match options.take value option with
      | .ok options => options.takeAll rest
      | .error error => .error error
    | some option, _, [] => .error (.missingValue option)
    | none, some switch, rest => (options.switch switch).takeAll rest
    | none, none, rest =>
      match options.takeFile argument with
      | .ok options => options.takeAll rest
      | .error error => .error error

/-- What some arguments ask for. -/
def ofArguments : List String → Except UsageError Options :=
  empty.takeAll

end Options

end Worksheet.CommandLine
