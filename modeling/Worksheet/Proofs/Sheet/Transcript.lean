import Worksheet.Proofs.Sheet.Circular

/-!
Edits entered one after the other: one that is refused leaves no trace, so that a script without its
refused edits answers as before and ends in the same sheet.
-/

namespace Worksheet.Sheet

/-- An edit as it is entered: the name of a cell and the text for it. -/
structure Edit where
  name : String
  input : String

/-- An edit together with what it answered. -/
abbrev Entry :=
  Edit × Except SheetError (List String)

/-- Whether an edit was not refused. -/
def Entry.wentThrough (entry : Entry) : Bool :=
  entry.2.isOk

/-- The edits of a script with what each of them answers, and the sheet behind the last one. -/
def transcript (sheet : Sheet) : List Edit → List Entry × Sheet
  | [] => ([], sheet)
  | edit :: rest =>
    let (answer, next) := sheet.set edit.name edit.input
    let (later, last) := next.transcript rest
    ((edit, answer) :: later, last)

/-- Whether none of the edits of a script is refused when they are entered one after the other. -/
def Accepts (sheet : Sheet) (script : List Edit) : Prop :=
  ∀ entry ∈ (sheet.transcript script).1, entry.wentThrough = true

variable {sheet : Sheet} {name input : String}

/-- The first edit of a script is entered before the others. -/
theorem transcript_cons (sheet : Sheet) (edit : Edit) (rest : List Edit) :
    sheet.transcript (edit :: rest) =
      ((edit, (sheet.set edit.name edit.input).1) ::
        ((sheet.set edit.name edit.input).2.transcript rest).1,
        ((sheet.set edit.name edit.input).2.transcript rest).2) := by
  rw [transcript]

/-- Without edits there is nothing to refuse. -/
theorem accepts_nil : sheet.Accepts [] :=
  fun _ member => absurd member List.not_mem_nil

/-- A script is accepted if its first edit is, and then the others. -/
theorem accepts_cons {edit : Edit} {rest : List Edit} : sheet.Accepts (edit :: rest) ↔
    (sheet.set edit.name edit.input).1.isOk = true ∧
      (sheet.set edit.name edit.input).2.Accepts rest := by
  -- The first entry of the transcript is that of the first edit.
  rw [Accepts, transcript_cons, List.forall_mem_cons]
  rfl

/-- An edit that is refused leaves the sheet as it was. -/
theorem set_of_refused {error : SheetError} (consistent : sheet.graph.Consistent)
    (refused : (sheet.set name input).1 = .error error) : (sheet.set name input).2 = sheet := by
  -- An edit either leaves the sheet as it was or answers with an order.
  rcases set_cases consistent name input with
    ⟨cause, same⟩ | ⟨target, contents, order, -, -, -, through⟩
  · rw [same]
  · rw [through] at refused
    cases refused

/-- A transcript has the edits of its script. -/
theorem map_fst_transcript (sheet : Sheet) (script : List Edit) :
    (sheet.transcript script).1.map Prod.fst = script := by
  -- Each edit is noted in front of those behind it.
  induction script generalizing sheet with
  | nil => rfl
  | cons edit rest ih =>
    rw [transcript_cons, List.map_cons, ih]

/-- A script leads from a reachable sheet to a reachable one. -/
theorem Reachable.transcript {settings : Settings} (reachable : Reachable settings sheet)
    (script : List Edit) : Reachable settings (sheet.transcript script).2 := by
  -- The first edit is one step, and the others go on from where it leads.
  induction script generalizing sheet with
  | nil => exact reachable
  | cons edit rest ih => exact ih (reachable.set edit.name edit.input)

/-- A script without the edits that are refused answers and ends as the others did. -/
theorem Sound.transcript_wentThrough (sound : sheet.Sound) (script : List Edit) :
    sheet.transcript (((sheet.transcript script).1.filter Entry.wentThrough).map Prod.fst) =
      ((sheet.transcript script).1.filter Entry.wentThrough, (sheet.transcript script).2) := by
  -- The sheet before an edit is also the one behind it unless the edit is kept.
  induction script generalizing sheet with
  | nil => rfl
  | cons edit rest ih =>
    have later := ih (sound.set edit.name edit.input)
    rw [transcript_cons]
    cases answer : (sheet.set edit.name edit.input).1 with
    | error error =>
      -- The edit is left out, and the others start from the sheet that it has not touched.
      have same := set_of_refused sound.consistent answer
      rw [same] at later ⊢
      rw [List.filter_cons_of_neg (by simp [Entry.wentThrough, Except.isOk, Except.toBool])]
      exact later
    | ok order =>
      -- The edit is kept and entered again first.
      rw [List.filter_cons_of_pos (by rfl), List.map_cons, transcript_cons, later, answer]

/-- A refused edit leaves a sheet as it was, cells, dependencies and all. So the edits of a script that
are not refused, entered without the others, answer the same as among them and end in the same
sheet. -/
theorem refused_without_trace (settings : Settings) (sheet : Sheet)
    (reachable : Reachable settings sheet) :
    (∀ name input error, (sheet.set name input).1 = .error error →
      (sheet.set name input).2 = sheet) ∧
    ∀ script, (sheet.transcript script).1.map Prod.fst = script ∧
      sheet.transcript (((sheet.transcript script).1.filter Entry.wentThrough).map Prod.fst) =
        ((sheet.transcript script).1.filter Entry.wentThrough, (sheet.transcript script).2) := by
  have sound := reachable.sound
  refine ⟨?_, ?_⟩
  · -- A refused edit gives the sheet back.
    intro name input error refused
    exact set_of_refused sound.consistent refused
  · -- Without the edits that were refused, each later one meets the same sheet.
    intro script
    exact ⟨map_fst_transcript sheet script, sound.transcript_wentThrough script⟩

/-- A formula that would make two cells refer to each other leaves both as they were. -/
theorem refused_without_trace_circular :
    Reachable .plain ((Sheet.empty .plain).set "A1" "=B1").2 ∧
      (∃ cycle, (((Sheet.empty .plain).set "A1" "=B1").2.set "B1" "=A1").1 =
        .error (.circularDependency "B1" cycle)) ∧
      (((Sheet.empty .plain).set "A1" "=B1").2.set "B1" "=A1").2 =
        ((Sheet.empty .plain).set "A1" "=B1").2 := by
  have reachable : Reachable .plain ((Sheet.empty .plain).set "A1" "=B1").2 :=
    .set "A1" "=B1" .empty
  have read : Contents.ofInput ((Sheet.empty .plain).set "A1" "=B1").2.settings.naming "=A1" =
      .ok (some (.formula ⟨[.reference "A1"]⟩)) := by
    rw [reachable.settings_eq]
    exact ofInput_reference
  have named : ((Sheet.empty .plain).set "A1" "=B1").2.cellName? "B1" = some "B1" :=
    reachable.cellName?_plain (by decide +kernel)
  rcases reachable.sound.set_answer_cases named read with
    ⟨-, cycle, -, refused⟩ | ⟨free, -⟩
  · -- The refused edit is the one that the theorem is about.
    have same := (refused_without_trace .plain _ reachable).1 "B1" "=A1" _ refused
    exact ⟨reachable, ⟨cycle, refused⟩, same⟩
  · -- The variable is a cell that depends on the edited one.
    exact absurd ⟨_, rfl, "A1", by decide, Relation.ReflTransGen.single edge_set_reference⟩ free

end Worksheet.Sheet
