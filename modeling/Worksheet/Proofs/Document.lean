import Worksheet.Document
import Worksheet.Proofs.Files.Tree
import Worksheet.Proofs.Preferences
import Worksheet.Proofs.Snapshot.Grid
import Worksheet.Proofs.Snapshot.Json
import Worksheet.Proofs.Snapshot.Restore

/-!
A document that has been saved opens again as it was, in both formats, except that the plain text
format loses a tag with a line feed in it.
-/

namespace Worksheet

/-- The text of a snapshot of a sheet is read as that snapshot, if the format can hold its tag. -/
theorem Sheet.Reachable.read_write {settings : Settings} {sheet : Sheet} {format : Format}
    (reachable : Reachable settings sheet)
    (trimmed : Text.trim settings.version = settings.version)
    (fits : format = .json ∨ '\n' ∉ settings.version.toList) :
    Snapshot.read (sheet.snapshot.write format) format = .ok sheet.snapshot := by
  cases format with
  | json => exact Snapshot.ofJson_toJsonWith _ _
  | grid =>
    -- Everything but the tag fits on its line on any sheet.
    have feedless : '\n' ∉ settings.version.toList := fits.resolve_left (by decide)
    exact (reachable.fitsLines feedless trimmed).ofGrid_toGrid

namespace Session

variable {settings : Settings} {session after : Session} {path saved : String}

/-- The sessions that lie on the way from an empty document through edits, saves and loads, while
others may do anything to the files. -/
inductive Reachable (settings : Settings) : Session → Prop
  | empty (files : FileTree) : Reachable settings ⟨.empty settings, files⟩
  | set {session : Session} (name input : String) (before : Reachable settings session) :
    Reachable settings { session with document := (session.document.set name input).2 }
  | clear {session : Session} (name : String) (before : Reachable settings session) :
    Reachable settings { session with document := (session.document.clear name).2 }
  | save {session : Session} (before : Reachable settings session) :
    Reachable settings session.save.2
  | saveAs {session : Session} (path : String) (before : Reachable settings session) :
    Reachable settings (session.saveAs path).2
  | load {session : Session} (path : String) (before : Reachable settings session) :
    Reachable settings (session.load path).2
  | elsewhere {session : Session} (files : FileTree) (before : Reachable settings session) :
    Reachable settings { session with files }

/-- A document that is written is saved at that path, or nothing happens. -/
theorem writeTo_cases (session : Session) (path : String) :
    (∃ cause, session.files.writeText path
        (session.document.sheet.snapshot.write (.ofPath path)) = .error cause ∧
      session.writeTo path = (.error (.io cause), session)) ∨
    ∃ files, session.files.writeText path
        (session.document.sheet.snapshot.write (.ofPath path)) = .ok files ∧
      session.writeTo path = (.ok path, ⟨session.document.markSaved, files⟩) := by
  -- Writing the file is the only thing that can fail.
  unfold writeTo
  cases session.files.writeText path (session.document.sheet.snapshot.write (.ofPath path)) with
  | error cause => exact Or.inl ⟨cause, rfl, rfl⟩
  | ok files => exact Or.inr ⟨files, rfl, rfl⟩

/-- A document that is saved is written to its own path, or nothing happens. -/
theorem save_cases (session : Session) :
    (∃ error, session.save = (.error error, session)) ∨
    ∃ path files, session.document.path = some path ∧
      session.files.writeText path
        (session.document.sheet.snapshot.write (.ofPath path)) = .ok files ∧
      session.save = (.ok path, ⟨session.document.markSaved, files⟩) := by
  unfold save
  split
  · -- Without a path nothing is written.
    exact Or.inl ⟨_, rfl⟩
  · rename_i path known
    rcases writeTo_cases session path with ⟨cause, -, same⟩ | ⟨files, written, same⟩
    · exact Or.inl ⟨_, same⟩
    · exact Or.inr ⟨path, files, known, written, same⟩

/-- A document that is saved at a path is written there and kept there, or nothing happens. -/
theorem saveAs_cases (session : Session) (path : String) :
    (∃ cause, session.files.writeText path
        (session.document.sheet.snapshot.write (.ofPath path)) = .error cause ∧
      session.saveAs path = (.error (.io cause), session)) ∨
    ∃ files, session.files.writeText path
        (session.document.sheet.snapshot.write (.ofPath path)) = .ok files ∧
      session.saveAs path = (.ok path, ⟨⟨session.document.sheet.markSaved, some path⟩, files⟩) := by
  -- The document takes the path only behind a write that went through.
  unfold saveAs
  rcases writeTo_cases session path with ⟨cause, failed, same⟩ | ⟨files, written, same⟩
  · exact Or.inl ⟨cause, failed, by rw [same]⟩
  · exact Or.inr ⟨files, written, by rw [same]; rfl⟩

/-- A document is loaded if it can be restored from the file. -/
theorem load_of_restored {snapshot : Snapshot} {sheet : Sheet}
    (read : session.files.readSnapshot path = .ok snapshot)
    (restored : snapshot.restore session.document.sheet.settings = .ok sheet) :
    session.load path = (.ok (), { session with document := ⟨sheet, some path⟩ }) := by
  simp [load, read, restored, Bind.bind, Except.bind]

/-- A document that is loaded is restored from the file, or nothing happens. -/
theorem load_cases (session : Session) (path : String) :
    (∃ error, session.load path = (.error error, session)) ∨
    ∃ snapshot sheet, session.files.readSnapshot path = .ok snapshot ∧
      snapshot.restore session.document.sheet.settings = .ok sheet ∧
      session.load path = (.ok (), { session with document := ⟨sheet, some path⟩ }) := by
  -- The document is replaced last, when nothing can fail any more.
  cases read : session.files.readSnapshot path with
  | error error => exact Or.inl ⟨error, by simp [load, read, Bind.bind, Except.bind]⟩
  | ok snapshot =>
    cases restored : snapshot.restore session.document.sheet.settings with
    | error error => exact Or.inl ⟨error, by simp [load, read, restored, Bind.bind, Except.bind]⟩
    | ok sheet => exact Or.inr ⟨snapshot, sheet, rfl, restored, load_of_restored read restored⟩

/-- A document that is opened has the settings and the path that it is opened with and nothing to
save, or nothing happens. -/
theorem openFile_cases (session : Session) (settings : Settings) (path : Option String) :
    (∃ error, session.openFile settings path = (.error error, session)) ∨
    ∃ sheet, Sheet.Reachable settings sheet ∧ sheet.changed = false ∧
      session.openFile settings path = (.ok (), ⟨⟨sheet, path⟩, session.files⟩) := by
  unfold openFile
  cases path with
  | none => exact Or.inr ⟨_, .empty, rfl, rfl⟩
  | some path =>
    dsimp only
    split
    · -- It is loaded into an empty document, which is given up if that fails.
      rcases load_cases { session with document := .empty settings } path with
        ⟨error, same⟩ | ⟨snapshot, sheet, -, restored, same⟩
      · exact Or.inl ⟨error, by rw [same]⟩
      · exact Or.inr ⟨sheet, Sheet.reachable_of_restore restored,
          Snapshot.changed_of_restore restored, by rw [same]⟩
    · exact Or.inr ⟨_, .empty, rfl, rfl⟩

/-- A document that has been opened has the settings and the path that it was opened with and nothing
to save, and the files are as they were. -/
theorem openFile_eq_ok {own : Option String}
    (done : session.openFile settings own = (.ok (), after)) :
    ∃ sheet, Sheet.Reachable settings sheet ∧ sheet.changed = false ∧
      after = ⟨⟨sheet, own⟩, session.files⟩ := by
  -- A file that cannot be opened gives an error.
  rcases openFile_cases session settings own with ⟨error, same⟩ | ⟨sheet, reached, unchanged, same⟩
  · rw [same] at done
    cases done
  · rw [same] at done
    cases done
    exact ⟨sheet, reached, unchanged, rfl⟩

/-- Whatever happens to a document, its sheet is one that edits and saves lead to. -/
theorem Reachable.sheet (reachable : Reachable settings session) :
    Sheet.Reachable settings session.document.sheet := by
  -- Each operation edits the sheet, marks it as saved or leaves it alone.
  induction reachable with
  | empty files => exact .empty
  | set name input _ ih => exact .set name input ih
  -- A cell is cleared by entering nothing.
  | clear name _ ih => exact .set name "" ih
  | @save session _ ih =>
    rcases save_cases session with ⟨error, same⟩ | ⟨path, files, -, -, same⟩
    · rwa [same]
    · rw [same]
      exact .markSaved ih
  | @saveAs session path _ ih =>
    rcases saveAs_cases session path with ⟨cause, -, same⟩ | ⟨files, -, same⟩
    · rwa [same]
    · rw [same]
      exact .markSaved ih
  | @load session path _ ih =>
    rcases load_cases session path with ⟨error, same⟩ | ⟨snapshot, sheet, -, restored, same⟩
    · rwa [same]
    · -- The restored sheet has come about by edits of its own, under the same settings.
      rw [same]
      exact Sheet.reachable_of_restore (ih.settings_eq ▸ restored)
  | elsewhere files _ ih => exact ih

/-- A file that has just been written holds the snapshot that was written. -/
theorem readSnapshot_of_writeText {files : FileTree}
    (reachable : Sheet.Reachable settings session.document.sheet)
    (trimmed : Text.trim settings.version = settings.version)
    (fits : Format.ofPath path = .json ∨ '\n' ∉ settings.version.toList)
    (done : session.files.writeText path
      (session.document.sheet.snapshot.write (.ofPath path)) = .ok files) :
    files.readSnapshot path = .ok session.document.sheet.snapshot := by
  -- The text is read back from the file, and the snapshot from the text.
  rw [FileTree.readSnapshot, (FileTree.readText_of_writeText done).2]
  exact reachable.read_write trimmed fits

/-- A document is opened from a file that exists if it can be restored from it. -/
theorem openFile_of_restored {snapshot : Snapshot} {sheet : Sheet}
    (present : session.files.contains path = true)
    (read : session.files.readSnapshot path = .ok snapshot)
    (restored : snapshot.restore settings = .ok sheet) :
    session.openFile settings (some path) =
      (.ok (), { session with document := ⟨sheet, some path⟩ }) := by
  -- It is loaded into an empty document, which has the settings and the same files.
  have loaded : ({ session with document := .empty settings } : Session).load path =
      (.ok (), { session with document := ⟨sheet, some path⟩ }) :=
    load_of_restored read restored
  rw [openFile, if_pos present, loaded]

/-- A document that is opened from a file that exists is restored from it. -/
theorem restored_of_openFile (present : session.files.contains path = true)
    (opened : (session.openFile settings (some path)).1.isOk = true) :
    ∃ snapshot sheet, session.files.readSnapshot path = .ok snapshot ∧
      snapshot.restore settings = .ok sheet := by
  -- A file that is there is loaded, and a load that goes through has read a snapshot and restored it.
  rw [openFile, if_pos present] at opened
  rcases load_cases { session with document := .empty settings } path with
    ⟨error, same⟩ | ⟨snapshot, sheet, read, restored, -⟩
  · rw [same] at opened
    cases opened
  · exact ⟨snapshot, sheet, read, restored⟩

/-- A document that has been saved at a path is kept there with nothing left to save. -/
theorem saveAs_eq_ok (done : session.saveAs path = (.ok saved, after)) :
    ∃ files, session.files.writeText path
        (session.document.sheet.snapshot.write (.ofPath path)) = .ok files ∧
      after = ⟨⟨session.document.sheet.markSaved, some path⟩, files⟩ := by
  -- A write that failed would be an error.
  rcases saveAs_cases session path with ⟨cause, -, same⟩ | ⟨files, written, same⟩
  · rw [same] at done
    cases done
  · rw [same] at done
    cases done
    exact ⟨files, written, rfl⟩

/-- A document that is saved is saved at the path that is given. -/
theorem saveAs_of_isOk (through : (session.saveAs path).1.isOk = true) :
    session.saveAs path = (.ok path, (session.saveAs path).2) := by
  -- The answer of a save is the path that was asked for.
  rcases saveAs_cases session path with ⟨cause, -, same⟩ | ⟨files, -, same⟩
  · rw [same] at through
    cases through
  · rw [same]

/-- No document with a line feed in its tag is opened in the plain text format. -/
theorem feedless_of_openFile (opened : (session.openFile settings (some path)).1.isOk = true)
    (present : session.files.contains path = true) (grid : Format.ofPath path = .grid) :
    '\n' ∉ settings.version.toList := by
  obtain ⟨snapshot, sheet, read, restored⟩ := restored_of_openFile present opened
  -- The tag that is expected is the one that is read.
  have tag : snapshot.version = settings.version := by
    unfold Snapshot.restore at restored
    split at restored
    · assumption
    · cases restored
  obtain ⟨text, -, parsed⟩ := bind_eq_ok.mp read
  rw [grid] at parsed
  exact tag ▸ Snapshot.feedless_of_ofGrid parsed

/-- A document that has been written to a file opens there as it is, if the format can hold its tag. -/
theorem openFile_of_writeText {files : FileTree} (reachable : Reachable settings session)
    (stable : settings.naming.Stable) (trimmed : Text.trim settings.version = settings.version)
    (fits : Format.ofPath path = .json ∨ '\n' ∉ settings.version.toList)
    (done : session.files.writeText path
      (session.document.sheet.snapshot.write (.ofPath path)) = .ok files) (document : Document) :
    Session.openFile ⟨document, files⟩ settings (some path) =
      (.ok (), ⟨⟨session.document.sheet.markSaved, some path⟩, files⟩) := by
  -- What is read back is the snapshot that was written, and it restores the sheet.
  have read := readSnapshot_of_writeText reachable.sheet trimmed fits done
  have restored := reachable.sheet.restore_snapshot stable
  exact openFile_of_restored (FileTree.readText_of_writeText done).1 read restored

/-- A document that has been saved at a path opens there with the same cells and dependencies and
nothing left to save, unless its format is the plain text one and its tag has a line feed. -/
theorem reopens_iff (files : FileTree) (chosen userFile : Option String) (settings : Settings)
    (session after : Session) (path saved : String)
    (loaded : settings = (Preferences.load files chosen userFile).1.settings)
    (reachable : Reachable settings session) (done : session.saveAs path = (.ok saved, after)) :
    ((after.openFile settings (some path)).1.isOk = true ↔
      Format.ofPath path = .json ∨ '\n' ∉ settings.version.toList) ∧
    (Format.ofPath path = .json ∨ '\n' ∉ settings.version.toList →
      ∃ opened, after.openFile settings (some path) = (.ok (), opened) ∧
        opened.document.isModified = false ∧ opened.document.path = some path ∧
        opened.document.sheet.cells = session.document.sheet.cells ∧
        opened.document.sheet.graph = session.document.sheet.graph ∧
        opened.document.sheet.settings = settings) := by
  obtain ⟨left, written, rfl⟩ := saveAs_eq_ok done
  -- All that matters about the preferences is that names are normalized for good and tags trimmed.
  have stable : settings.naming.Stable := by
    rw [loaded]
    exact Preferences.stable_settings _
  have trimmed : Text.trim settings.version = settings.version := by
    rw [loaded, Preferences.version_settings]
    exact (Preferences.isTag_load files chosen userFile).2
  refine ⟨⟨fun opened => ?_, fun fits => ?_⟩, fun fits => ?_⟩
  · cases format : Format.ofPath path with
    | json => exact Or.inl rfl
    | grid =>
      -- The file is there, so that the document was not opened as a new one.
      have present := (FileTree.readText_of_writeText written).1
      exact Or.inr (feedless_of_openFile opened present format)
  · rw [openFile_of_writeText reachable stable trimmed fits written]
    rfl
  · exact ⟨_, openFile_of_writeText reachable stable trimmed fits written _, rfl, rfl, rfl, rfl,
      reachable.sheet.settings_eq⟩

/-- A document with a formula is saved and opens again under a tag from a file. -/
theorem reopens_iff_reference :
    let files := (FileTree.empty ["work"]).insert ["work", "config.toml"]
      (.file "version = \" 2.0 \"\nname_case = \"upper\"\n".toUTF8)
    let settings := (Preferences.load files (some "config.toml") none).1.settings
    let session : Session := ⟨((Document.empty settings).set "a1" "=b1").2, files⟩
    settings.version = "2.0" ∧ Reachable settings session ∧
      ∃ after, session.saveAs "x.grd" = (.ok "x.grd", after) ∧
        ∃ opened, after.openFile settings (some "x.grd") = (.ok (), opened) ∧
          opened.document.sheet.cells = session.document.sheet.cells := by
  intro files settings session
  -- The settings are read from the file, where the tag has blanks around it.
  have version : settings.version = "2.0" := by decide +kernel
  have begun : Reachable settings ⟨.empty settings, files⟩ := .empty files
  have reachable : Reachable settings session := begun.set "a1" "=b1"
  have through : (session.saveAs "x.grd").1.isOk = true := by decide +kernel
  have loaded : settings = (Preferences.load files (some "config.toml") none).1.settings := rfl
  -- Nothing depends on how the settings are read from the file any more.
  clear_value session settings
  have done := saveAs_of_isOk through
  have fits : Format.ofPath "x.grd" = .json ∨ '\n' ∉ settings.version.toList := by
    rw [version]
    decide +kernel
  obtain ⟨opened, opens, -, -, cells, -⟩ :=
    (reopens_iff files (some "config.toml") none settings session _ "x.grd" "x.grd" loaded reachable
      done).2 fits
  exact ⟨version, reachable, _, done, opened, opens, cells⟩

/-- A tag with a line feed can come from a file, and then a document that has been saved in the plain
text format does not open again, although it does in the other one. -/
theorem closed_by_line_feed :
    let files := (FileTree.empty ["work"]).insert ["work", "config.toml"]
      (.file "version = \"a\\nb\"\n".toUTF8)
    let settings := (Preferences.load files (some "config.toml") none).1.settings
    let session : Session := ⟨.empty settings, files⟩
    settings.version = "a\nb" ∧ Reachable settings session ∧
      (session.saveAs "x.grd").1.isOk = true ∧
      ((session.saveAs "x.grd").2.openFile settings (some "x.grd")).1.isOk = false ∧
      (session.saveAs "x.sprd").1.isOk = true ∧
      ((session.saveAs "x.sprd").2.openFile settings (some "x.sprd")).1.isOk = true := by
  intro files settings session
  -- The settings, the files and an empty document are small enough to be computed.
  refine ⟨by decide +kernel, .empty files, by decide +kernel, by decide +kernel, by decide +kernel,
    by decide +kernel⟩

end Session

end Worksheet
