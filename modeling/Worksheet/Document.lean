import Worksheet.Files.Tree
import Worksheet.Snapshot.Grid
import Worksheet.Snapshot.Json

/-!
A document is a sheet with the path it is kept at. Saving, loading and opening work on a document
together with the files around it, and leave both as they were when they fail.
-/

namespace Worksheet

/-- A sheet and the path of its file, if it has one. -/
structure Document where
  sheet : Sheet
  path : Option String
deriving Inhabited

namespace Document

/-- A document without cells and without a path. -/
def empty (settings : Settings) : Document :=
  ⟨.empty settings, none⟩

/-- Whether there is anything to save. -/
def isModified (document : Document) : Bool :=
  document.sheet.changed

/-- Enters a text into a cell and returns the names of the cells that may have changed. -/
def set (document : Document) (name input : String) :
    Except SheetError (List String) × Document :=
  let (result, sheet) := document.sheet.set name input
  (result, { document with sheet })

/-- Clears a cell and returns the names of the cells that may have changed. -/
def clear (document : Document) (name : String) : Except SheetError (List String) × Document :=
  document.set name ""

/-- The text that a cell shows, empty for a name that is refused. -/
def display (document : Document) (name : String) : String :=
  match document.sheet.value name with
  | .ok value => value.display
  | .error _ => ""

/-- The text that gives a cell its contents when it is entered. -/
def input (document : Document) (name : String) : Except SheetError String :=
  (document.sheet.contents name).map Contents.input

/-- The text of a formula without outer blanks and without its sign, if it has one. -/
def formulaText (text : String) : String :=
  match Text.trimBlanks text.toList with
  | '=' :: rest => String.ofList rest
  | cs => String.ofList cs

/-- The value of a formula that is not stored. -/
def evaluate (document : Document) (text : String) : Except SheetError Value :=
  (document.sheet.parseFormula (formulaText text)).map document.sheet.evaluate

/-- The document with nothing left to save. -/
def markSaved (document : Document) : Document :=
  { document with sheet := document.sheet.markSaved }

end Document

/-- The text of a snapshot in a format. -/
def Snapshot.write (snapshot : Snapshot) : Format → String
  | .json => snapshot.toJson
  | .grid => snapshot.toGrid

/-- Reads the text of a snapshot in a format. -/
def Snapshot.read (text : String) : Format → Except StorageError Snapshot
  | .json => ofJson text
  | .grid => ofGrid text

/-- The snapshot that the file at a path holds, in the format of the path. -/
def FileTree.readSnapshot (files : FileTree) (path : String) : Except StorageError Snapshot := do
  let text ← (files.readText path).mapError .io
  Snapshot.read text (.ofPath path)

/-- A document at work and the files around it. -/
structure Session where
  document : Document
  files : FileTree

namespace Session

/-- Writes the document to a path and returns the path. -/
def writeTo (session : Session) (path : String) : Except StorageError String × Session :=
  match session.files.writeText path (session.document.sheet.snapshot.write (.ofPath path)) with
  | .error cause => (.error (.io cause), session)
  | .ok files => (.ok path, { document := session.document.markSaved, files })

/-- Saves the document at its path. -/
def save (session : Session) : Except StorageError String × Session :=
  match session.document.path with
  | none => (.error .noFilePath, session)
  | some path => session.writeTo path

/-- Saves the document at a path, which becomes its own. -/
def saveAs (session : Session) (path : String) : Except StorageError String × Session :=
  match session.writeTo path with
  | (.ok saved, session) =>
    (.ok saved, { session with document := { session.document with path := some path } })
  | (.error error, session) => (.error error, session)

/-- Replaces the document by the one at a path, read with the settings of the old one. -/
def load (session : Session) (path : String) : Except StorageError Unit × Session :=
  let restored := do
    let snapshot ← session.files.readSnapshot path
    snapshot.restore session.document.sheet.settings
  match restored with
  | .ok sheet => (.ok (), { session with document := ⟨sheet, some path⟩ })
  | .error error => (.error error, session)

/-- Replaces the document by the one at a path, or by an empty one to be saved there. -/
def openFile (session : Session) (settings : Settings) (path : Option String) :
    Except StorageError Unit × Session :=
  let fresh := { session with document := .empty settings }
  match path with
  | none => (.ok (), fresh)
  | some path =>
    if session.files.contains path then
      match fresh.load path with
      | (.ok _, loaded) => (.ok (), loaded)
      | (.error error, _) => (.error error, session)
    else (.ok (), { session with document := ⟨.empty settings, some path⟩ })

end Session

end Worksheet
