import Worksheet.Snapshot.Basic
import Worksheet.Text.Split

/-!
The plain text format of a snapshot: a line with the version tag and a line for every cell, texts in
quotes and everything else as it is entered.
-/

namespace Worksheet.Snapshot

/-- Writes a backslash before quotes, backslashes and line feeds, the last as a letter. -/
def escape (text : List Char) : List Char :=
  text.flatMap fun c =>
    if c = '\\' then ['\\', '\\']
    else if c = '"' then ['\\', '"']
    else if c = '\n' then ['\\', 'n']
    else [c]

/-- Reads escaped text, in which an unknown escape stands for itself. -/
def unescape : List Char → List Char
  | [] => []
  | '\\' :: '\\' :: rest => '\\' :: unescape rest
  | '\\' :: '"' :: rest => '"' :: unescape rest
  | '\\' :: 'n' :: rest => '\n' :: unescape rest
  | '\\' :: c :: rest => '\\' :: c :: unescape rest
  | c :: rest => c :: unescape rest

/-- Whether an input is written as it is entered, as formulas and numbers are. -/
def isBare (input : String) : Bool :=
  input.startsWith '=' || (Double.read? input).isSome

/-- The written form of an input. -/
def gridValue (input : String) : List Char :=
  if isBare input then input.toList else '"' :: escape input.toList ++ ['"']

/-- The lines of a document. -/
def gridLines (snapshot : Snapshot) : List (List Char) :=
  "# Cellgraph Spreadsheet".toList :: ("# version: ".toList ++ snapshot.version.toList) ::
    snapshot.entries.toList.map fun (name, input) => name.toList ++ ": ".toList ++ gridValue input

/-- The text of a document. -/
def toGrid (snapshot : Snapshot) : String :=
  String.ofList (Text.unlines snapshot.gridLines)

/-- What one line of a document says. -/
inductive GridLine
  | nothing
  | version (tag : String)
  | entry (name input : String)
deriving DecidableEq

/-- Reads a value without its outer blanks, of which an empty one counts for nothing. -/
def readValue (value : List Char) : Except LineError (Option String) :=
  match value with
  | [] => .ok none
  | '=' :: _ => .ok (some (String.ofList value))
  | first :: rest =>
    if first = '"' ∧ rest.getLast? = some '"' then
      .ok (some (String.ofList (unescape rest.dropLast)))
    else if (Double.read? (String.ofList value)).isSome then .ok (some (String.ofList value))
    else .error (.invalidValue (String.ofList value))

/-- Reads one line of a document. -/
def readLine (line : List Char) : Except LineError GridLine :=
  match Text.trimBlanks line with
  | [] => .ok .nothing
  | '#' :: comment =>
    match "version:".toList.isPrefixOf? (Text.trimBlanks comment) with
    | some tag => .ok (.version (String.ofList (Text.trimBlanks tag)))
    | none => .ok .nothing
  | cs =>
    match cs.dropWhile (· ≠ ':') with
    | [] => .error .missingColon
    | _ :: value => do
      let name := Text.trimBlanks (cs.takeWhile (· ≠ ':'))
      if name = [] then throw .missingName
      match ← readValue (Text.trimBlanks value) with
      | none => return .nothing
      | some input => return .entry (String.ofList name) input

/-- What has been read of a document: its first version tag and the last input of every cell. -/
structure GridState where
  version : Option String
  entries : NameMap String

/-- Takes one numbered line of a document. -/
def GridState.take (state : GridState) : List Char × Nat → Except StorageError GridState
  | (line, number) =>
    match readLine line with
    | .ok .nothing => .ok state
    | .ok (.version tag) => .ok { state with version := state.version <|> some tag }
    | .ok (.entry name input) => .ok { state with entries := state.entries.insert name input }
    | .error cause => .error (.parse number cause)

/-- Reads the text of a document, whose tag is the default one where it states none. -/
def ofGrid (text : String) : Except StorageError Snapshot := do
  let state ← ((Text.split '\n' text.toList).zipIdx 1).foldlM GridState.take ⟨none, ∅⟩
  return ⟨state.version.getD defaultVersion, state.entries⟩

end Worksheet.Snapshot
