import Worksheet.CommandLine.Options
import Worksheet.Document
import Worksheet.Preferences

/-!
A run opens a document, edits it, evaluates a formula, prints cells and saves, in this order. It
stops at the first step that fails, and a run that fails leaves every file as it was.
-/

namespace Worksheet

/-- The words for a refusal and for what caused it. -/
def SheetError.explain (error : SheetError) : String :=
  match error with
  | .formulaFormat cause => error.message ++ ": " ++ cause.message
  | _ => error.message

/-- The words for a storage error and for what caused it. -/
def StorageError.explain (error : StorageError) : String :=
  match error with
  | .io cause => error.message ++ ": " ++ cause.message
  | _ => error.message

namespace CommandLine

/-- Why a run fails. -/
inductive Failure
  | opening (path : String) (cause : StorageError)
  | edit (name : String) (cause : SheetError)
  | command (cause : SheetError)
  | saving (cause : StorageError)
deriving DecidableEq

/-- The words for a failure. -/
def Failure.message : Failure → String
  | opening path cause => s!"Failed to open {path}: " ++ cause.explain
  | edit name cause => s!"Failed to set {name}: " ++ cause.explain
  | command cause => cause.explain
  | saving cause => cause.explain

/-- How a run ends. -/
inductive Ending
  | help
  | misused (error : UsageError)
  | idle
  | failed (failure : Failure)
  | done (showsError : Bool)
deriving DecidableEq

/-- The lines that explain the options. -/
def usage : List String :=
  ["Usage: cellgraph [OPTIONS] [FILE]",
    "",
    "Arguments:",
    "  [FILE]                    Spreadsheet file to open (.sprd or .grd)",
    "",
    "Options:",
    "  -s, --set <NAME=CONTENT>  Set a cell (can be repeated)",
    "  -c, --command <FORMULA>   Evaluate a formula and print the result",
    "  -p, --print               Print every non-empty cell",
    "  -o, --output <FILE>       Save to file (.grd for text, otherwise JSON)",
    "  --config <FILE>           Load settings from a TOML file",
    "  --no-config               Ignore the user config file",
    "  -h, --help                Print help"]

namespace Ending

/-- The exit code of a run: zero for success, also where only help was asked for. -/
def code : Ending → Nat
  | help => 0
  | done showsError => if showsError then 1 else 0
  | _ => 1

/-- The last lines that tell how a run went. -/
def lines : Ending → List String
  | help => usage
  | misused error => ("Error: " ++ error.message) :: usage
  | idle => usage
  | failed failure => ["Error: " ++ failure.message]
  | done _ => []

end Ending

/-- What a run prints, what it tells about itself, how it ends, and the files after it. -/
structure Outcome where
  output : List String
  notes : List String
  ending : Ending
  files : FileTree

namespace Outcome

/-- The exit code. -/
def code (outcome : Outcome) : Nat :=
  outcome.ending.code

/-- All lines that tell how a run went. -/
def messages (outcome : Outcome) : List String :=
  outcome.notes ++ outcome.ending.lines

end Outcome

/-- The preferences of a run and warnings, without any file if none is to be read. -/
def preferences (options : Options) (userFile : Option String) (files : FileTree) :
    Preferences × List String :=
  if options.noConfig && options.config.isNone then (.standard, [])
  else Preferences.load files options.config userFile

/-- The document of a run, a new one where no path is given. -/
def openDocument (settings : Settings) (files : FileTree) :
    Option String → Except Failure Session
  | none => .ok ⟨.empty settings, files⟩
  | some path =>
    match Session.openFile ⟨.empty settings, files⟩ settings (some path) with
    | (.ok _, session) => .ok session
    | (.error cause, _) => .error (.opening path cause)

/-- Enters edits one after the other, up to the first that is refused, with a line for each before. -/
def enterEdits (document : Document) :
    List (String × String) → List String × Except Failure Document
  | [] => ([], .ok document)
  | (name, content) :: rest =>
    match document.set name content with
    | (.ok affected, document) =>
      let (lines, result) := enterEdits document rest
      (("Updated: " ++ ", ".intercalate affected) :: lines, result)
    | (.error cause, _) => ([], .error (.edit name cause))

/-- The value of the formula of a run, if there is one. -/
def evaluateCommand (document : Document) : Option String → Except Failure (Option Value)
  | none => .ok none
  | some formula =>
    match document.evaluate formula with
    | .ok value => .ok (some value)
    | .error cause => .error (.command cause)

/-- A line for every stored cell. -/
def cellLines (document : Document) : List String :=
  document.sheet.cells.toList.map fun (name, cell) =>
    s!"{name}: {cell.contents.input} => {cell.value.display}"

/-- Saves the document where the options say, or else where it is kept if it has changed, and
returns the path. -/
def saveDocument (options : Options) (session : Session) :
    Except Failure (Option String) × Session :=
  let attempt (result : Except StorageError String × Session) :=
    ((result.1.map some).mapError .saving, result.2)
  match options.output with
  | some path => attempt (session.saveAs path)
  | none =>
    if session.document.isModified && session.document.path.isSome then attempt session.save
    else (.ok none, session)

/-- Does what the options ask for. -/
def run (options : Options) (userFile : Option String) (files : FileTree) : Outcome :=
  let (preferences, warnings) := preferences options userFile files
  let notes := warnings.map ("Warning: " ++ ·)
  match openDocument preferences.settings files options.file with
  | .error failure => ⟨[], notes, .failed failure, files⟩
  | .ok session =>
    let (updates, entered) := enterEdits session.document options.edits
    let notes := notes ++ updates
    match entered with
    | .error failure => ⟨[], notes, .failed failure, files⟩
    | .ok document =>
      match evaluateCommand document options.command with
      | .error failure => ⟨[], notes, .failed failure, files⟩
      | .ok value =>
        let output := value.toList.map Value.display ++
          if options.printsCells then cellLines document else []
        match saveDocument options { session with document } with
        | (.error failure, session) => ⟨output, notes, .failed failure, session.files⟩
        | (.ok saved, session) =>
          ⟨output, notes ++ saved.toList.map ("Saved to " ++ ·), .done (value.any Value.isError),
            session.files⟩

/-- Does what some arguments ask for, given the path of the user's own preferences. -/
def execute (arguments : List String) (userFile : Option String) (files : FileTree) : Outcome :=
  if arguments.any isHelp then ⟨[], [], .help, files⟩
  else
    match Options.ofArguments arguments with
    | .error error => ⟨[], [], .misused error, files⟩
    | .ok options =>
      if options.isIdle then ⟨[], [], .idle, files⟩ else run options userFile files

end CommandLine

end Worksheet
