import Worksheet.Files.Error
import Worksheet.Sheet.Basic

/-!
A snapshot holds what a document keeps of a sheet, its version tag and the input of every cell, and a
sheet is restored by entering those inputs again.
-/

namespace Worksheet

/-- The version tag and the input of every stored cell. -/
structure Snapshot where
  version : String
  entries : NameMap String
deriving DecidableEq

/-- What is wrong with a line of a document. -/
inductive LineError
  | missingColon
  | missingName
  | invalidValue (value : String)
deriving DecidableEq

/-- The words for a faulty line. -/
def LineError.message : LineError → String
  | missingColon => "Expected 'NAME: VALUE' format"
  | missingName => "Missing cell name"
  | invalidValue value => s!"Invalid value: {value}. Use quotes for text."

/-- Why a document cannot be read, restored or written. -/
inductive StorageError
  | io (cause : FileError)
  | json
  | parse (line : Nat) (cause : LineError)
  | versionMismatch (expected found : String)
  | replay (cell : String) (cause : SheetError)
  | noFilePath
deriving DecidableEq

/-- The words for a storage error. -/
def StorageError.message : StorageError → String
  | io cause => "IO error: " ++ cause.message
  | json => "JSON error"
  | parse line cause => s!"Parse error at line {line}: " ++ cause.message
  | versionMismatch expected found => s!"Version mismatch: expected {expected}, found {found}"
  | replay cell cause => s!"Cannot load cell {cell}: " ++ cause.message
  | noFilePath => "No file path set"

/-- The snapshot of a sheet, in which a name is looked up as any name is. -/
def Sheet.snapshot (sheet : Sheet) : Snapshot :=
  -- A stored name that no longer stands for a cell is left out.
  { version := sheet.settings.version
    entries := sheet.names.foldl (fun entries name =>
      match sheet.contents name with
      | .ok contents => entries.insert name contents.input
      | .error _ => entries) ∅ }

namespace Snapshot

/-- Enters one stored input into a sheet. -/
def enter (sheet : Sheet) : String × String → Except StorageError Sheet
  | (name, input) =>
    match sheet.set name input with
    | (.ok _, sheet) => .ok sheet
    | (.error cause, _) => .error (.replay name cause)

/-- Enters stored inputs one after the other into an empty sheet. -/
def enterAll (settings : Settings) (entries : List (String × String)) : Except StorageError Sheet :=
  entries.foldlM enter (.empty settings)

/-- The sheet that a snapshot was taken of, provided that its tag is the expected one. -/
def restore (settings : Settings) (snapshot : Snapshot) : Except StorageError Sheet :=
  if snapshot.version = settings.version then
    (enterAll settings snapshot.entries.toList).map Sheet.markSaved
  else .error (.versionMismatch settings.version snapshot.version)

end Snapshot

end Worksheet
