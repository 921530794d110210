import Worksheet.CommandLine.Run
import Worksheet.Proofs.CommandLine.Options
import Worksheet.Proofs.Document

/-!
A run does all that its arguments ask for or leaves every file as it was, and it writes to one file at
most.
-/

namespace Worksheet.CommandLine

namespace Options

/-- The edits that are asked for. -/
def script (options : Options) : List Sheet.Edit :=
  options.edits.map fun edit => ⟨edit.1, edit.2⟩

/-- The path to save at: the one for the output, or else that of the document if it is edited. -/
def target (options : Options) : Option String :=
  options.output <|> if options.edits.isEmpty then none else options.file

end Options

/-- Whether the document of a run is opened, all edits are accepted by it, which lead to a sheet, and
the formula has a value there if one is given. -/
def CarriedOut (settings : Settings) (files : FileTree) (options : Options) (sheet : Sheet)
    (value : Option Value) : Prop :=
  ∃ opened, Session.openFile ⟨.empty settings, files⟩ settings options.file = (.ok (), opened) ∧
    opened.document.sheet.Accepts options.script ∧
    (opened.document.sheet.transcript options.script).2 = sheet ∧
    options.command.mapM (Document.evaluate ⟨sheet, options.file⟩) = .ok value

/-- Whether a run ends with an exit code and leaves all files as they were. -/
def Outcome.Leaves (outcome : Outcome) (code : Nat) (files : FileTree) : Prop :=
  outcome.code = code ∧ outcome.files = files

/-- Whether a run ends with an exit code and has changed nothing but the file at a path, which has a
text then. -/
def Outcome.Writes (outcome : Outcome) (code : Nat) (files : FileTree) (path text : String) : Prop :=
  outcome.code = code ∧ files.WritesOnly outcome.files path text

/-- The exit code of a run without a failure, whose formula may have a value. -/
def successCode (value : Option Value) : Nat :=
  if value.any Value.isError then 1 else 0

variable {settings : Settings} {files : FileTree} {options : Options} {document : Document}
  {session : Session} {sheet : Sheet} {value : Option Value} {userFile : Option String}

/-- The document of a run is opened as any document is. -/
theorem openDocument_eq_ok_iff {path : Option String} :
    openDocument settings files path = .ok session ↔
      Session.openFile ⟨.empty settings, files⟩ settings path = (.ok (), session) := by
  cases path with
  | none => simp [openDocument, Session.openFile]
  | some path =>
    -- The answer is passed on, and a failure names the path.
    rw [openDocument]
    cases Session.openFile ⟨.empty settings, files⟩ settings (some path) with
    | mk answer opened => cases answer <;> simp

/-- The edits of a run are entered if the sheet accepts them, which is then the one behind them. -/
theorem enterEdits_eq_ok_iff {edits : List (String × String)} {after : Document} :
    (enterEdits document edits).2 = .ok after ↔
      document.sheet.Accepts (edits.map fun edit => ⟨edit.1, edit.2⟩) ∧
        after = ⟨(document.sheet.transcript (edits.map fun edit => ⟨edit.1, edit.2⟩)).2,
          document.path⟩ := by
  -- The edits behind the first one are entered into the document that it leaves.
  induction edits generalizing document with
  | nil =>
    rw [enterEdits.eq_def]
    simp [Sheet.transcript, Sheet.accepts_nil, eq_comm]
  | cons edit rest ih =>
    obtain ⟨name, content⟩ := edit
    have edited : document.set name content = ((document.sheet.set name content).1,
        ⟨(document.sheet.set name content).2, document.path⟩) := rfl
    rw [enterEdits.eq_def, List.map_cons, Sheet.accepts_cons, Sheet.transcript_cons]
    dsimp only
    rw [edited]
    -- An edit that is refused ends the run.
    cases (document.sheet.set name content).1 with
    | error error => simp [Except.isOk, Except.toBool]
    | ok affected => simp [Except.isOk, Except.toBool, ih]

/-- The formula of a run is evaluated if one is given. -/
theorem evaluateCommand_eq_ok_iff {command : Option String} :
    evaluateCommand document command = .ok value ↔
      command.mapM document.evaluate = .ok value := by
  -- Without a formula there is nothing that could fail.
  cases command with
  | none => simp [evaluateCommand, Pure.pure, Except.pure]
  | some formula =>
    rw [evaluateCommand]
    cases answer : document.evaluate formula <;> simp [answer, Functor.map, Except.map]

/-- A run saves its document at the path that is asked for, if there is one, provided that there is
something to save exactly behind an edit. -/
theorem saveDocument_cases (files : FileTree) (modified : sheet.changed = !options.edits.isEmpty) :
    (options.target = none ∧ saveDocument options ⟨⟨sheet, options.file⟩, files⟩ =
      (.ok none, ⟨⟨sheet, options.file⟩, files⟩)) ∨
    ∃ path, options.target = some path ∧
      ((∃ cause, files.writeText path (sheet.snapshot.write (.ofPath path)) = .error cause ∧
        saveDocument options ⟨⟨sheet, options.file⟩, files⟩ =
          (.error (.saving (.io cause)), ⟨⟨sheet, options.file⟩, files⟩)) ∨
      ∃ written document, files.writeText path (sheet.snapshot.write (.ofPath path)) = .ok written ∧
        saveDocument options ⟨⟨sheet, options.file⟩, files⟩ =
          (.ok (some path), ⟨document, written⟩)) := by
  unfold saveDocument Options.target
  cases options.output with
  | some path =>
    -- The path for the output comes first, whether there is something to save or not.
    refine Or.inr ⟨path, rfl, ?_⟩
    dsimp only
    rcases Session.saveAs_cases ⟨⟨sheet, options.file⟩, files⟩ path with
      ⟨cause, failed, same⟩ | ⟨written, done, same⟩
    · exact Or.inl ⟨cause, failed, by rw [same]; rfl⟩
    · exact Or.inr ⟨written, _, done, by rw [same]; rfl⟩
  | none =>
    rw [Document.isModified, modified]
    cases options.edits.isEmpty with
    -- Without an edit there is nothing to save.
    | true => exact Or.inl ⟨rfl, rfl⟩
    | false =>
      cases options.file with
      -- An edited document without a path of its own is given up.
      | none => exact Or.inl ⟨rfl, rfl⟩
      -- Any other is written where it was opened.
      | some path =>
        refine Or.inr ⟨path, rfl, ?_⟩
        have own : Session.save ⟨⟨sheet, some path⟩, files⟩ =
            Session.writeTo ⟨⟨sheet, some path⟩, files⟩ path := rfl
        dsimp only [Option.isSome_some, Bool.not_false, Bool.and_self, if_true]
        rcases Session.writeTo_cases ⟨⟨sheet, some path⟩, files⟩ path with
          ⟨cause, failed, same⟩ | ⟨written, done, same⟩
        · exact Or.inl ⟨cause, failed, by rw [own, same]; rfl⟩
        · exact Or.inr ⟨written, _, done, by rw [own, same]; rfl⟩

/-- What is carried out is what the steps of a run before it saves do one after the other. -/
theorem carriedOut_iff : CarriedOut settings files options sheet value ↔
    ∃ start, openDocument settings files options.file = .ok ⟨⟨start, options.file⟩, files⟩ ∧
      (enterEdits ⟨start, options.file⟩ options.edits).2 = .ok ⟨sheet, options.file⟩ ∧
      evaluateCommand ⟨sheet, options.file⟩ options.command = .ok value := by
  simp only [openDocument_eq_ok_iff, enterEdits_eq_ok_iff, evaluateCommand_eq_ok_iff]
  constructor
  · rintro ⟨opened, opening, accepted, rfl, evaluated⟩
    obtain ⟨start, -, -, rfl⟩ := Session.openFile_eq_ok opening
    exact ⟨start, opening, ⟨accepted, rfl⟩, evaluated⟩
  · -- The document stays at the path that it was opened with.
    rintro ⟨start, opening, ⟨accepted, same⟩, evaluated⟩
    exact ⟨_, opening, accepted, congrArg Document.sheet same.symm, evaluated⟩

/-- A run of which not everything is carried out fails and leaves all files as they were. -/
theorem run_of_not_carriedOut
    (failing : ¬∃ sheet value,
      CarriedOut (preferences options userFile files).1.settings files options sheet value) :
    (run options userFile files).Leaves 1 files := by
  simp only [carriedOut_iff] at failing
  unfold run
  -- The first step that fails ends the run, and no step before saving touches a file.
  cases opening : openDocument (preferences options userFile files).1.settings files options.file with
  | error failure =>
    simp only [opening]
    exact ⟨rfl, rfl⟩
  | ok opened =>
    obtain ⟨start, -, -, rfl⟩ := Session.openFile_eq_ok (openDocument_eq_ok_iff.mp opening)
    cases entered : (enterEdits ⟨start, options.file⟩ options.edits).2 with
    | error failure =>
      simp only [opening, entered]
      exact ⟨rfl, rfl⟩
    | ok document =>
      -- Edits leave the path of the document alone.
      have kept : document.path = options.file :=
        congrArg Document.path (enterEdits_eq_ok_iff.mp entered).2
      obtain ⟨sheet, path⟩ := document
      obtain rfl : path = options.file := kept
      cases evaluated : evaluateCommand ⟨sheet, options.file⟩ options.command with
      | error failure =>
        simp only [opening, entered, evaluated]
        exact ⟨rfl, rfl⟩
      -- Here nothing has failed.
      | ok value => exact absurd ⟨_, value, start, opening, entered, evaluated⟩ failing

/-- What is carried out is saved, and the exit code says whether this fails or the value is an error. -/
theorem run_of_carriedOut
    (carried : CarriedOut (preferences options userFile files).1.settings files options sheet value) :
    ∃ output notes, run options userFile files =
      match saveDocument options ⟨⟨sheet, options.file⟩, files⟩ with
      | (.error failure, session) => ⟨output, notes, .failed failure, session.files⟩
      | (.ok saved, session) =>
        ⟨output, notes ++ saved.toList.map ("Saved to " ++ ·), .done (value.any Value.isError),
          session.files⟩ := by
  -- All steps before the last one succeed, and what they print does not matter.
  obtain ⟨start, opening, entered, evaluated⟩ := carriedOut_iff.mp carried
  unfold run
  simp only [opening, entered, evaluated]
  exact ⟨_, _, rfl⟩

/-- What a run ends with is reached by edits, and there is something to save exactly if the run has
edits of its own. -/
theorem sheet_of_carriedOut (carried : CarriedOut settings files options sheet value) :
    Sheet.Reachable settings sheet ∧ sheet.changed = !options.edits.isEmpty := by
  obtain ⟨opened, opening, accepted, rfl, -⟩ := carried
  obtain ⟨start, reached, unchanged, rfl⟩ := Session.openFile_eq_ok opening
  refine ⟨reached.transcript options.script, ?_⟩
  -- Opening has left nothing to save.
  rw [reached.sound.changed_transcript accepted, unchanged, Options.script, List.isEmpty_map]
  rfl

/-- The name of a stored cell is looked up with the input and the value that are stored. -/
theorem lookups_of_found {name : String} {cell : Cell} (stable : settings.naming.Stable)
    (reachable : Sheet.Reachable settings document.sheet)
    (found : document.sheet.cells[name]? = some cell) :
    document.input name = .ok cell.contents.input ∧ document.display name = cell.value.display := by
  -- The name stands for the cell that it is stored under.
  have named := reachable.cellName?_of_stored? stable (Sheet.stored?_of_found found)
  have answer : document.sheet.cellName name = .ok name := by
    rw [Sheet.cellName, named]
  constructor
  · rw [Document.input, Sheet.contents_of_named named, Sheet.stored?_of_found found]
    rfl
  · have value : document.sheet.value name = .ok cell.value := by
      rw [Sheet.value, answer]
      simp [found, Bind.bind, Except.bind, Pure.pure, Except.pure]
    rw [Document.display, value]

/-- The lines that a run prints are those of looking up every name, and none of them is refused. -/
theorem cellLines_of_carriedOut
    (carried : CarriedOut (preferences options userFile files).1.settings files options sheet value) :
    let document : Document := ⟨sheet, options.file⟩
    (cellLines document).map Except.ok = document.sheet.names.map fun name =>
      (document.input name).map fun input => s!"{name}: {input} => {document.display name}" := by
  intro document
  have reachable : Sheet.Reachable _ document.sheet := (sheet_of_carriedOut carried).1
  -- Whatever the preferences are, names are normalized for good.
  have stable := Preferences.stable_settings (preferences options userFile files).1
  -- Both go through the cells in the order of their names.
  rw [cellLines, Sheet.names, ← Std.ExtTreeMap.map_fst_toList_eq_keys, List.map_map, List.map_map]
  apply List.map_congr_left
  intro entry member
  have found := Std.ExtTreeMap.mem_toList_iff_getElem?_eq_some.mp member
  obtain ⟨input, display⟩ := lookups_of_found stable reachable found
  simp [input, display, Except.map]

/-- A run that is carried out changes nothing if there is no path to save at. Otherwise it changes the
one file there, unless it cannot be written. -/
theorem run_saves
    (carried : CarriedOut (preferences options userFile files).1.settings files options sheet value) :
    (options.target = none →
      (run options userFile files).Leaves (successCode value) files) ∧
    ∀ path, options.target = some path →
      ((files.writeText path (sheet.snapshot.write (.ofPath path))).isOk = false →
        (run options userFile files).Leaves 1 files) ∧
      ((files.writeText path (sheet.snapshot.write (.ofPath path))).isOk = true →
        (run options userFile files).Writes (successCode value) files path
          (sheet.snapshot.write (.ofPath path))) := by
  -- What is left of the run is to save the document, if it has a target.
  obtain ⟨output, notes, same⟩ := run_of_carriedOut carried
  rw [same]
  rcases saveDocument_cases files (sheet_of_carriedOut carried).2 with
    ⟨nowhere, saved⟩ | ⟨path, somewhere, saving⟩
  · rw [saved, nowhere]
    exact ⟨fun _ => ⟨rfl, rfl⟩, fun path other => absurd other (by simp)⟩
  · rw [somewhere]
    refine ⟨fun other => absurd other (by simp), fun own isPath => ?_⟩
    obtain rfl := Option.some.inj isPath
    -- Each way of saving rules out the answer of writing that belongs to the other one.
    rcases saving with ⟨cause, failed, saved⟩ | ⟨written, document, done, saved⟩
    · rw [saved, failed]
      exact ⟨fun _ => ⟨rfl, rfl⟩, fun through => by cases through⟩
    · rw [saved, done]
      exact ⟨fun failed => (by cases failed), fun _ => ⟨rfl, FileTree.writesOnly_of_writeText done⟩⟩

/-- A run writes to one file at most and does all that its arguments ask for or changes nothing. Without
a failure the exit code tells whether the formula of the run has an error for its value, and then the
file at the path for the output, or else at that of an edited document, has the text of the document
behind all edits. -/
theorem execute_all_or_nothing (arguments : List String) (userFile : Option String)
    (files : FileTree) :
    let outcome := execute arguments userFile files
    let options := Options.ofItems (items arguments)
    let settings := (preferences options userFile files).1.settings
    (arguments.any isHelp = true → outcome.Leaves 0 files) ∧
    (arguments.any isHelp = false →
      (¬Legal (items arguments) → outcome.Leaves 1 files) ∧
      (Legal (items arguments) → options.isIdle = true → outcome.Leaves 1 files) ∧
      (Legal (items arguments) → options.isIdle = false →
        ((¬∃ sheet value, CarriedOut settings files options sheet value) →
          outcome.Leaves 1 files) ∧
        ∀ sheet value, CarriedOut settings files options sheet value →
          (options.target = none → outcome.Leaves (successCode value) files) ∧
          ∀ path, options.target = some path →
            ((files.writeText path (sheet.snapshot.write (.ofPath path))).isOk = false →
              outcome.Leaves 1 files) ∧
            ((files.writeText path (sheet.snapshot.write (.ofPath path))).isOk = true →
              outcome.Writes (successCode value) files path
                (sheet.snapshot.write (.ofPath path))))) := by
  intro outcome options settings
  have read : Legal (items arguments) → Options.ofArguments arguments = .ok options :=
    fun legal => Options.ofArguments_eq_ok_iff.mpr ⟨legal, rfl⟩
  refine ⟨fun help => ?_, fun noHelp => ⟨fun illegal => ?_, fun legal idle => ?_,
    fun legal active => ?_⟩⟩
  · -- Help is shown whatever else is asked for.
    simp only [outcome, execute, help]
    exact ⟨rfl, rfl⟩
  · -- Arguments that are read are legal ones.
    cases taken : Options.ofArguments arguments with
    | error error =>
      simp only [outcome, execute, noHelp, taken]
      exact ⟨rfl, rfl⟩
    | ok other => exact absurd (Options.ofArguments_eq_ok_iff.mp taken).1 illegal
  · -- With nothing to do, that is all there is to tell.
    simp only [outcome, execute, noHelp, read legal, idle]
    exact ⟨rfl, rfl⟩
  · -- Every other run is carried out or fails on the way.
    have same : outcome = run options userFile files := by
      simp only [outcome, execute, noHelp, read legal, active]
      rfl
    rw [same]
    exact ⟨run_of_not_carriedOut, fun sheet value => run_saves⟩

/-- An edit of a document that does not exist yet writes its file, and an edit without an equals sign
changes nothing. -/
theorem execute_all_or_nothing_edit :
    let files := FileTree.empty ["work"]
    let sheet := ((Sheet.empty .plain).set "A1" "x").2
    (execute ["-s", "A1=x", "y.sprd"] none files).Writes 0 files "y.sprd"
      (sheet.snapshot.write (.ofPath "y.sprd")) ∧
    (execute ["--set", "A1", "y.sprd"] none files).Leaves 1 files := by
  intro files sheet
  -- The first arguments are legal, and the others lack a content for the cell.
  have legal : Legal (items ["-s", "A1=x", "y.sprd"]) := ⟨by decide +kernel, by decide +kernel⟩
  have illegal : ¬Legal (items ["--set", "A1", "y.sprd"]) := by
    intro legal
    exact absurd (legal.items (.valued .edit "A1")) (by decide +kernel)
  have options : Options.ofItems (items ["-s", "A1=x", "y.sprd"]) =
      ⟨some "y.sprd", [("A1", "x")], none, false, none, none, false⟩ := by
    decide +kernel
  -- The document is new, and the one edit goes through.
  have absent : files.contains "y.sprd" = false := by decide +kernel
  have opens : Session.openFile ⟨.empty .plain, files⟩ .plain (some "y.sprd") =
      (.ok (), ⟨⟨.empty .plain, some "y.sprd"⟩, files⟩) := by
    rw [Session.openFile, if_neg (by rw [absent]; decide)]
  have blank : Sheet.Reachable .plain (Sheet.empty .plain) := .empty
  have carried : CarriedOut .plain files (Options.ofItems (items ["-s", "A1=x", "y.sprd"])) sheet
      none := by
    rw [options]
    have through := blank.isOk_set_text (show isCellName "A1" = true by decide +kernel)
    have last : ((Sheet.empty .plain).transcript [⟨"A1", "x"⟩]).2 = sheet := by
      rw [Sheet.transcript_cons]
      rfl
    exact ⟨_, opens, Sheet.accepts_cons.mpr ⟨through, Sheet.accepts_nil⟩, last, rfl⟩
  -- The document can be written, and so it is.
  have writable : (files.writeText "y.sprd"
      (sheet.snapshot.write (.ofPath "y.sprd"))).isOk = true := by
    decide +kernel
  have edited := (execute_all_or_nothing ["-s", "A1=x", "y.sprd"] none files).2 (by decide +kernel)
  have refused := (execute_all_or_nothing ["--set", "A1", "y.sprd"] none files).2 (by decide +kernel)
  have target : (Options.ofItems (items ["-s", "A1=x", "y.sprd"])).target = some "y.sprd" := by
    rw [options]
    rfl
  exact ⟨(((edited.2.2 legal (by decide +kernel)).2 sheet none carried).2 "y.sprd" target).2 writable,
    refused.1 illegal⟩

end Worksheet.CommandLine
