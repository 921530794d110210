import Worksheet.Document

/-! The records that are logged while a document is edited, saved and loaded. -/

namespace Worksheet

/-- How serious a record is. -/
inductive Level
  | debug
  | info
  | warn
deriving DecidableEq

/-- One logged record. -/
structure Record where
  level : Level
  message : String
deriving DecidableEq

namespace Journal

/-- The records of an edit of a sheet. -/
def ofSet (sheet : Sheet) (name input : String) : List Record :=
  match sheet.cellName? name, (sheet.set name input).1 with
  | some normalized, .ok affected =>
    [⟨.debug, s!"Set {normalized}: {affected.length} cell(s) recalculated"⟩]
  | _, .error (.circularDependency cell cycle) =>
    [⟨.warn, s!"Rejected edit to {cell}: circular dependency " ++ " -> ".intercalate cycle⟩]
  | _, _ => []

/-- The records of an edit of a document, which also names the cell as it was given. -/
def ofEdit (document : Document) (name input : String) : List Record :=
  ofSet document.sheet name input ++
    match (document.sheet.set name input).1 with
    | .ok affected => [⟨.debug, s!"Edit of {name} touched {affected.length} cell(s)"⟩]
    | .error _ => []

/-- The records of entering stored inputs, up to the first one that is refused. -/
def ofEntries (sheet : Sheet) : List (String × String) → List Record
  | [] => []
  | (name, input) :: rest =>
    ⟨.debug, s!"Replaying {name}: {input}"⟩ :: ofSet sheet name input ++
      match sheet.set name input with
      | (.ok _, sheet) => ofEntries sheet rest
      | (.error _, _) => []

/-- The records of restoring a snapshot. -/
def ofRestore (settings : Settings) (snapshot : Snapshot) : List Record :=
  if snapshot.version = settings.version then
    ofEntries (.empty settings) snapshot.entries.toList
  else []

/-- The records of writing a document to a path. -/
def ofWrite (session : Session) (path : String) : List Record :=
  match (session.writeTo path).1 with
  | .ok _ =>
    let count := session.document.sheet.snapshot.entries.size
    [⟨.info, s!"Saved {count} cell(s) to {path}"⟩]
  | .error _ => []

/-- The records of saving a document at its path. -/
def ofSave (session : Session) : List Record :=
  match session.document.path with
  | some path => ofWrite session path
  | none => []

/-- The records of loading a document from a path. -/
def ofLoad (session : Session) (settings : Settings) (path : String) : List Record :=
  match session.files.readSnapshot path with
  | .error _ => []
  | .ok snapshot =>
    ofRestore settings snapshot ++
      match snapshot.restore settings with
      | .ok _ => [⟨.info, s!"Loaded {snapshot.entries.size} cell(s) from {path}"⟩]
      | .error _ => []

/-- The records of opening a document. -/
def ofOpen (session : Session) (settings : Settings) : Option String → List Record
  | some path => if session.files.contains path then ofLoad session settings path else []
  | none => []

end Journal

end Worksheet
