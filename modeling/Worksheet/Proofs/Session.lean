import Worksheet.Proofs.Document

/-!
Documents at work on files that others change as well: an operation that fails changes nothing, one that
succeeds changes no more than it is for, and a document always knows whether it has unsaved edits.
-/

namespace Worksheet.Session

/-- What can be done with a document, and what others can do to the files meanwhile. -/
inductive Operation
  | set (name input : String)
  | clear (name : String)
  | save
  | saveAs (path : String)
  | load (path : String)
  | openFile (settings : Settings) (path : Option String)
  | markSaved
  | elsewhere (files : FileTree)

/-- Whether an operation is an edit. -/
def Operation.edits : Operation → Bool
  | set _ _ => true
  | clear _ => true
  | _ => false

/-- Whether an operation leaves a document without unsaved edits. -/
def Operation.settles : Operation → Bool
  | save => true
  | saveAs _ => true
  | load _ => true
  | openFile _ _ => true
  | markSaved => true
  | _ => false

/-- Does an operation and tells whether it succeeded. -/
def perform (session : Session) : Operation → Bool × Session
  | .set name input =>
    let (answer, document) := session.document.set name input
    (answer.isOk, { session with document })
  | .clear name =>
    let (answer, document) := session.document.clear name
    (answer.isOk, { session with document })
  | .save =>
    let (answer, after) := session.save
    (answer.isOk, after)
  | .saveAs path =>
    let (answer, after) := session.saveAs path
    (answer.isOk, after)
  | .load path =>
    let (answer, after) := session.load path
    (answer.isOk, after)
  | .openFile settings path =>
    let (answer, after) := session.openFile settings path
    (answer.isOk, after)
  | .markSaved => (true, { session with document := session.document.markSaved })
  | .elsewhere files => (true, { session with files })

/-- An operation together with whether it succeeded. -/
abbrev Event :=
  Operation × Bool

/-- The operations of a run with whether each of them succeeded, and the session behind the last one. -/
def transcript (session : Session) : List Operation → List Event × Session
  | [] => ([], session)
  | operation :: rest =>
    let (succeeded, next) := session.perform operation
    let (later, last) := next.transcript rest
    ((operation, succeeded) :: later, last)

/-- Whether an edit succeeded. -/
def Event.edits (event : Event) : Bool :=
  event.2 && event.1.edits

/-- Whether a document was saved or replaced. -/
def Event.settles (event : Event) : Bool :=
  event.2 && event.1.settles

/-- Whether an edit succeeded after which the document was neither saved nor replaced. -/
def Unsaved (history : List Event) : Prop :=
  ∃ before edit after, history = before ++ edit :: after ∧ edit.edits = true ∧
    ∀ event ∈ after, event.settles = false

/-- Whether the sheet of a session has come about by edits and saves. -/
def Valid (session : Session) : Prop :=
  ∃ settings, Sheet.Reachable settings session.document.sheet

variable {settings : Settings} {session after : Session} {operation : Operation} {event : Event}
  {history : List Event} {path : String}

/-- Nothing has been edited before the first operation. -/
theorem not_unsaved_nil : ¬Unsaved [] := by
  rintro ⟨before, edit, after, split, -⟩
  -- An empty history has no edit in it.
  simp at split

/-- An edit is unsaved if it came later than the first operation, or was the first one and nothing
was saved or replaced later. -/
theorem unsaved_cons : Unsaved (event :: history) ↔
    Unsaved history ∨ event.edits = true ∧ ∀ later ∈ history, later.settles = false := by
  constructor
  · rintro ⟨before, edit, after, split, edited, kept⟩
    -- The edit is the first event, or it lies among the others.
    rcases List.cons_eq_append_iff.mp split with ⟨-, first⟩ | ⟨rest, -, later⟩
    · cases first
      exact Or.inr ⟨edited, kept⟩
    · exact Or.inl ⟨rest, edit, after, later, edited, kept⟩
  · rintro (⟨before, edit, after, rfl, edited, kept⟩ | ⟨edited, kept⟩)
    · exact ⟨event :: before, edit, after, rfl, edited, kept⟩
    · exact ⟨[], event, history, rfl, edited, kept⟩

/-- A run begins with its first operation. -/
theorem transcript_cons (session : Session) (operation : Operation) (rest : List Operation) :
    session.transcript (operation :: rest) =
      ((operation, (session.perform operation).1) ::
        ((session.perform operation).2.transcript rest).1,
        ((session.perform operation).2.transcript rest).2) := by
  rw [transcript]

/-- An edit of a document changes nothing if it is refused, and leaves something to save if not. -/
theorem set_cases (reachable : Sheet.Reachable settings session.document.sheet)
    (name input : String) :
    (∃ error, session.document.set name input = (.error error, session.document)) ∨
    ∃ order sheet, session.document.set name input = (.ok order, ⟨sheet, session.document.path⟩) ∧
      Sheet.Reachable settings sheet ∧ sheet.changed = true := by
  have edited := reachable.set name input
  unfold Document.set
  -- The document has the path that it had, whatever becomes of the sheet.
  rcases Sheet.set_cases reachable.sound.consistent name input with
    ⟨error, same⟩ | ⟨target, contents, order, -, -, -, same⟩
  · exact Or.inl ⟨error, by rw [same]⟩
  · rw [same] at edited ⊢
    exact Or.inr ⟨order, _, rfl, edited, rfl⟩

/-- An edit fails and changes nothing, or there is something to save behind it. -/
theorem perform_set_cases (reachable : Sheet.Reachable settings session.document.sheet)
    (name input : String) :
    session.perform (.set name input) = (false, session) ∨
    ∃ after, session.perform (.set name input) = (true, after) ∧ after.Valid ∧
      after.document.isModified = true := by
  -- The answer of the document is that of the edit, and the files stay as they are.
  rcases set_cases reachable name input with ⟨error, same⟩ | ⟨order, sheet, same, reached, changed⟩
  · exact Or.inl (by rw [perform, same]; rfl)
  · exact Or.inr ⟨⟨⟨sheet, session.document.path⟩, session.files⟩, by rw [perform, same]; rfl,
      ⟨_, reached⟩, changed⟩

/-- An operation fails and changes nothing, or it succeeds, and then there is something to save if it
was an edit, or if there was before and it has neither saved nor replaced the document. -/
theorem perform_cases (valid : session.Valid) (operation : Operation) :
    session.perform operation = (false, session) ∨
    ∃ after, session.perform operation = (true, after) ∧ after.Valid ∧
      after.document.isModified =
        (operation.edits || (!operation.settles && session.document.isModified)) := by
  obtain ⟨settings, reachable⟩ := valid
  cases operation with
  | set name input => exact perform_set_cases reachable name input
  -- A cell is cleared by entering nothing.
  | clear name => exact perform_set_cases reachable name ""
  | save =>
    -- The sheet is kept but for the mark that there is something to save.
    rcases save_cases session with ⟨error, same⟩ | ⟨path, files, -, -, same⟩
    · exact Or.inl (by rw [perform, same]; rfl)
    · exact Or.inr ⟨_, by rw [perform, same]; rfl, ⟨_, reachable.markSaved⟩, rfl⟩
  | saveAs path =>
    -- The sheet is the same, and the path is the new one.
    rcases saveAs_cases session path with ⟨cause, -, same⟩ | ⟨files, -, same⟩
    · exact Or.inl (by rw [perform, same]; rfl)
    · exact Or.inr ⟨_, by rw [perform, same]; rfl, ⟨_, reachable.markSaved⟩, rfl⟩
  | load path =>
    -- The new sheet has come about by edits of its own, and it is marked as saved.
    rcases load_cases session path with ⟨error, same⟩ | ⟨snapshot, sheet, -, restored, same⟩
    · exact Or.inl (by rw [perform, same]; rfl)
    · exact Or.inr ⟨_, by rw [perform, same]; rfl, ⟨_, Sheet.reachable_of_restore restored⟩,
        Snapshot.changed_of_restore restored⟩
  | openFile settings path =>
    -- The sheet is empty or restored, and has nothing to save.
    rcases openFile_cases session settings path with ⟨error, same⟩ | ⟨sheet, reached, unchanged, same⟩
    · exact Or.inl (by rw [perform, same]; rfl)
    · exact Or.inr ⟨⟨⟨sheet, path⟩, session.files⟩, by rw [perform, same]; rfl, ⟨_, reached⟩,
        unchanged⟩
  -- Nothing can go wrong with the mark or with what others do, which leaves the document alone.
  | markSaved => exact Or.inr ⟨_, rfl, ⟨_, reachable.markSaved⟩, rfl⟩
  | elsewhere files => exact Or.inr ⟨_, rfl, ⟨_, reachable⟩, rfl⟩

/-- Behind a run there is something to save if an edit is unsaved, or if there was before and nothing
has been saved or replaced. -/
theorem isModified_transcript (valid : session.Valid) (operations : List Operation) :
    (session.transcript operations).2.Valid ∧
    ((session.transcript operations).2.document.isModified = true ↔
      Unsaved (session.transcript operations).1 ∨ session.document.isModified = true ∧
        ∀ event ∈ (session.transcript operations).1, event.settles = false) := by
  -- What there was to save before the others is what the first operation leaves.
  induction operations generalizing session with
  | nil => exact ⟨valid, by simp [transcript, not_unsaved_nil]⟩
  | cons operation rest ih =>
    rw [transcript_cons]
    rcases perform_cases valid operation with failed | ⟨after, succeeded, afterValid, modified⟩
    · -- An operation that fails is no edit and settles nothing.
      obtain ⟨lastValid, flag⟩ := ih valid
      rw [failed]
      refine ⟨lastValid, ?_⟩
      rw [flag, unsaved_cons]
      simp [Event.edits, Event.settles]
    · obtain ⟨lastValid, flag⟩ := ih afterValid
      rw [succeeded]
      refine ⟨lastValid, ?_⟩
      -- Nothing may settle the document later, whether the edit is this one or an earlier one.
      rw [flag, modified, unsaved_cons, List.forall_mem_cons]
      simp only [Event.edits, Event.settles, Bool.true_and, Bool.or_eq_true, Bool.and_eq_true,
        Bool.not_eq_true']
      tauto

/-- Whatever is done with an empty document, the sheet behind it has come about by edits and saves. -/
theorem reachable_transcript (settings : Settings) (files : FileTree)
    (operations : List Operation) :
    let sheet := (transcript ⟨.empty settings, files⟩ operations).2.document.sheet
    Sheet.Reachable sheet.settings sheet := by
  intro sheet
  have begun : Valid ⟨.empty settings, files⟩ := ⟨settings, .empty⟩
  -- Opening another document may change the settings, and the new sheet begins with those.
  obtain ⟨own, reachable⟩ := (isModified_transcript begun operations).1
  have same : sheet.settings = own := reachable.settings_eq
  rwa [same]

/-- A document that is saved is written to its own path, and nothing else changes. -/
theorem save_eq_ok (done : session.save = (.ok path, after)) :
    session.document.path = some path ∧ after.document = session.document.markSaved ∧
      session.files.WritesOnly after.files path
        (session.document.sheet.snapshot.write (.ofPath path)) := by
  -- A save that goes through has a path and has written there.
  rcases save_cases session with ⟨error, same⟩ | ⟨own, files, known, written, same⟩
  · rw [same] at done
    cases done
  · rw [same] at done
    cases done
    exact ⟨known, rfl, FileTree.writesOnly_of_writeText written⟩

/-- What is loaded is restored from the file, whatever document it replaces. -/
theorem load_eq_ok (done : session.load path = (.ok (), after)) :
    (∃ snapshot sheet, session.files.readSnapshot path = .ok snapshot ∧
      snapshot.restore session.document.sheet.settings = .ok sheet ∧
      after = ⟨⟨sheet, some path⟩, session.files⟩) ∧
    ∀ document : Document, document.sheet.settings = session.document.sheet.settings →
      load ⟨document, session.files⟩ path = (.ok (), after) := by
  rcases load_cases session path with ⟨error, same⟩ | ⟨snapshot, sheet, read, restored, same⟩
  · rw [same] at done
    cases done
  · rw [same] at done
    cases done
    refine ⟨⟨snapshot, sheet, read, restored, rfl⟩, fun document alike => ?_⟩
    -- All that is asked of the old document are its settings.
    exact load_of_restored read (alike ▸ restored)

/-- Whatever is done with a document and to the files around it, there is something to save exactly if
an edit has succeeded since the document was last saved or replaced. An operation that fails leaves
the document and the files as they were. One that loads takes everything but the settings from the
file and nothing from the document that it replaces, and one that saves writes the one file. -/
theorem transactional (settings : Settings) (files : FileTree) (operations : List Operation) :
    let history := (transcript ⟨.empty settings, files⟩ operations).1
    let session := (transcript ⟨.empty settings, files⟩ operations).2
    (session.document.isModified = true ↔ Unsaved history) ∧
    (∀ operation, (session.perform operation).1 = false →
      (session.perform operation).2 = session) ∧
    (∀ path after, session.load path = (.ok (), after) →
      (∃ snapshot sheet, session.files.readSnapshot path = .ok snapshot ∧
        snapshot.restore session.document.sheet.settings = .ok sheet ∧
        after = ⟨⟨sheet, some path⟩, session.files⟩) ∧
      ∀ document : Document, document.sheet.settings = session.document.sheet.settings →
        load ⟨document, session.files⟩ path = (.ok (), after)) ∧
    (∀ path after, session.save = (.ok path, after) →
      session.document.path = some path ∧ after.document = session.document.markSaved ∧
        session.files.WritesOnly after.files path
          (session.document.sheet.snapshot.write (.ofPath path))) ∧
    ∀ path saved after, session.saveAs path = (.ok saved, after) →
      after.document = ⟨session.document.sheet.markSaved, some path⟩ ∧
        session.files.WritesOnly after.files path
          (session.document.sheet.snapshot.write (.ofPath path)) := by
  intro history session
  have begun : Valid ⟨.empty settings, files⟩ := ⟨settings, .empty⟩
  obtain ⟨valid, modified⟩ := isModified_transcript begun operations
  refine ⟨?_, ?_, fun path after => load_eq_ok, fun path after => save_eq_ok, ?_⟩
  · -- An empty document has nothing to save.
    rw [modified]
    simp [history, Document.isModified, Document.empty, Sheet.empty]
  · -- An operation that succeeds does not answer that it has failed.
    intro operation failed
    rcases perform_cases valid operation with same | ⟨after, succeeded, -⟩
    · rw [same]
    · rw [succeeded] at failed
      cases failed
  · intro path saved after done
    obtain ⟨left, written, rfl⟩ := saveAs_eq_ok done
    exact ⟨rfl, FileTree.writesOnly_of_writeText written⟩

/-- A document that is edited once it has been saved has something to save, also behind a load that
fails. It can be saved again, or gives way to what it was saved as. -/
theorem transactional_edited :
    let operations : List Operation := [.saveAs "x.sprd", .set "A1" "x"]
    let history := (transcript ⟨.empty .plain, .empty ["work"]⟩ operations).1
    let session := (transcript ⟨.empty .plain, .empty ["work"]⟩ operations).2
    session.document.isModified = true ∧ Unsaved history ∧
      (session.perform (.load "y.sprd")).1 = false ∧
      (session.perform (.load "y.sprd")).2 = session ∧
      (∃ after, session.load "x.sprd" = (.ok (), after) ∧
        load ⟨.empty session.document.sheet.settings, session.files⟩ "x.sprd" = (.ok (), after)) ∧
      (∃ path after, session.save = (.ok path, after) ∧
        after.document = session.document.markSaved) ∧
      ∃ path after, session.saveAs "y.grd" = (.ok path, after) ∧
        after.document.path = some "y.grd" := by
  intro operations history session
  obtain ⟨modified, failed, loaded, saved, savedAs⟩ :=
    transactional .plain (.empty ["work"]) operations
  -- Whether files can be read and written is computed.
  have written : (saveAs ⟨.empty .plain, .empty ["work"]⟩ "x.sprd").1.isOk = true := by
    decide +kernel
  have missing : (session.perform (.load "y.sprd")).1 = false := by decide +kernel
  have loads : (load ⟨.empty .plain, session.files⟩ "x.sprd").1.isOk = true := by decide +kernel
  have saves : session.save.1.isOk = true := by decide +kernel
  have savesAs : (session.saveAs "y.grd").1.isOk = true := by decide +kernel
  -- The document begins without cells, and the edit goes through.
  obtain ⟨files, -, same⟩ := saveAs_eq_ok (saveAs_of_isOk written)
  have sheet : session.document.sheet = ((Sheet.empty .plain).markSaved.set "A1" "x").2 := by
    simp only [session, operations, transcript_cons, perform, same]
    rfl
  have blank : Sheet.Reachable .plain (Sheet.empty .plain).markSaved := .markSaved .empty
  have edited : session.document.isModified = true := by
    rw [Document.isModified, sheet]
    exact (Sheet.set_of_wentThrough blank.sound.consistent
      (blank.isOk_set_text (by decide +kernel))).2.2
  have settings : session.document.sheet.settings = .plain := by
    rw [sheet, (blank.set "A1" "x").settings_eq]
  -- Each of the three operations goes through, and what it does is known.
  obtain ⟨⟨⟩, loadDone⟩ := exists_of_isOk loads
  obtain ⟨path, saveDone⟩ := exists_of_isOk saves
  obtain ⟨other, saveAsDone⟩ := exists_of_isOk savesAs
  have done := (load_eq_ok loadDone).2 session.document settings
  refine ⟨edited, modified.mp edited, missing, failed _ missing, ⟨_, done, ?_⟩,
    ⟨path, _, saveDone, ?_⟩, other, _, saveAsDone, ?_⟩
  · exact (loaded _ _ done).2 _ rfl
  · exact (saved _ _ saveDone).2.1
  · rw [(savedAs _ _ _ saveAsDone).1]

end Worksheet.Session
