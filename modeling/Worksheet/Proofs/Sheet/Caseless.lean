import Mathlib.Data.List.Forall2
import Worksheet.Proofs.Formula.Caseless
import Worksheet.Proofs.Sheet.Inputs
import Worksheet.Proofs.Sheet.Transcript

/-!
Scripts that differ in nothing but the case of letters in names and formulas: on a sheet that puts
names into one case they are answered alike and end in the same sheet.
-/

namespace Worksheet

namespace Contents

variable {naming : Naming} {text other : String}

/-- Formulas that differ in case alone are entered as the same contents or break the same rule. -/
theorem ofInput_caseless (ignores : naming.IgnoresCase)
    (same : Text.caseless text = Text.caseless other) :
    (ofInput naming ("=" ++ text)).mapError FormatError.caseless =
      (ofInput naming ("=" ++ other)).mapError FormatError.caseless := by
  -- Behind the sign an input is read as the formula of its caseless text.
  have read : ∀ text, (ofInput naming ("=" ++ text)).mapError FormatError.caseless =
      (Formula.ofText naming (Text.caseless text)).map fun f => some (.formula f) := by
    intro text
    have signed : ("=" ++ text).toList = '=' :: text.toList := String.toList_append
    rw [ofInput_signed signed (read?_of_sign signed), Formula.ofText_caseless ignores]
    cases Formula.ofText naming text <;> rfl
  rw [read, read, same]

end Contents

/-- The refusal with the name or the spelling that it mentions made caseless. -/
def SheetError.caseless : SheetError → SheetError
  | invalidName name => invalidName (Text.caseless name)
  | formulaFormat error => formulaFormat error.caseless
  | circularDependency cell cycle => circularDependency cell cycle

namespace Sheet

/-- Whether two edits differ at most in the case of the name and, behind the sign of formulas, in that
of the text. -/
structure Edit.Recased (edit other : Edit) : Prop where
  name : Text.caseless other.name = Text.caseless edit.name
  input : other.input = edit.input ∨ ∃ text recased, edit.input = "=" ++ text ∧
    other.input = "=" ++ recased ∧ Text.caseless recased = Text.caseless text

/-- What the edits of a script answer, with the spelling that a refusal mentions made caseless. -/
def answers (sheet : Sheet) (script : List Edit) : List (Except SheetError (List String)) :=
  (sheet.transcript script).1.map fun entry => entry.2.mapError SheetError.caseless

variable {sheet : Sheet} {edit other : Edit}

/-- Names that differ in case alone stand for one cell, or both are refused. -/
theorem cellName?_caseless (ignores : sheet.settings.naming.IgnoresCase) {name recased : String}
    (same : Text.caseless recased = Text.caseless name) :
    sheet.cellName? recased = sheet.cellName? name := by
  -- The normalization forgets the case of letters, and all else is decided behind it.
  have normalized : sheet.settings.naming.normalize recased =
      sheet.settings.naming.normalize name := by
    rw [← ignores recased, same, ignores name]
  simp only [cellName?, normalized]

/-- Inputs that differ in case alone are read as the same contents, or they break the same rule. -/
theorem Edit.Recased.ofInput {naming : Naming} (ignores : naming.IgnoresCase)
    (recased : edit.Recased other) :
    (Contents.ofInput naming other.input).mapError FormatError.caseless =
      (Contents.ofInput naming edit.input).mapError FormatError.caseless := by
  -- Either the inputs are the same, or both are formulas.
  rcases recased.input with same | ⟨text, spelled, before, after, same⟩
  · rw [same]
  · rw [before, after, Contents.ofInput_caseless ignores same]

/-- Edits that differ in case alone are answered alike and leave the same sheet. -/
theorem Edit.Recased.set (ignores : sheet.settings.naming.IgnoresCase)
    (recased : edit.Recased other) :
    (sheet.set other.name other.input).1.mapError SheetError.caseless =
        (sheet.set edit.name edit.input).1.mapError SheetError.caseless ∧
      (sheet.set other.name other.input).2 = (sheet.set edit.name edit.input).2 := by
  -- Both edits go to the same cell, and their inputs are read alike.
  have named := cellName?_caseless ignores recased.name
  have read := recased.ofInput ignores
  unfold Sheet.set cellName
  rw [named]
  cases sheet.cellName? edit.name with
  | none =>
    -- Both names are refused, and the refusals mention them as they were given.
    exact ⟨congrArg (fun name => Except.error (SheetError.invalidName name)) recased.name, rfl⟩
  | some name =>
    dsimp only
    cases before : Contents.ofInput sheet.settings.naming edit.input with
    | error error =>
      cases after : Contents.ofInput sheet.settings.naming other.input with
      | error refused =>
        -- Neither text is read, and both break the same rule.
        rw [before, after] at read
        have same : refused.caseless = error.caseless := Except.error.inj read
        exact ⟨congrArg (fun error => Except.error (SheetError.formulaFormat error)) same, rfl⟩
      | ok contents =>
        rw [before, after] at read
        cases read
    | ok contents =>
      cases after : Contents.ofInput sheet.settings.naming other.input with
      | error refused =>
        rw [before, after] at read
        cases read
      | ok entered =>
        -- The same contents are put into the same cell.
        rw [before, after] at read
        have same : entered = contents := Except.ok.inj read
        rw [same]
        exact ⟨rfl, rfl⟩

/-- Scripts that differ in case alone are answered alike and end in the same sheet. -/
theorem Reachable.transcript_recased {settings : Settings} {script recased : List Edit}
    (reachable : Reachable settings sheet) (ignores : settings.naming.IgnoresCase)
    (same : List.Forall₂ Edit.Recased script recased) :
    sheet.answers recased = sheet.answers script ∧
      (sheet.transcript recased).2 = (sheet.transcript script).2 := by
  -- The first edits lead to one sheet, from which both scripts go on.
  induction same generalizing sheet with
  | nil => exact ⟨rfl, rfl⟩
  | @cons edit other script others first later ih =>
    have naming : sheet.settings.naming.IgnoresCase := by rwa [reachable.settings_eq]
    obtain ⟨answered, left⟩ := first.set naming
    obtain ⟨answers, last⟩ := ih (reachable.set edit.name edit.input)
    simp only [Sheet.answers, transcript_cons, left, List.map_cons] at answers last ⊢
    exact ⟨congrArg₂ List.cons answered answers, last⟩

/-- On a sheet that puts names into capitals or small letters, whichever names it allows, the case of
letters in cell names and formulas counts for nothing: of two scripts that differ in it alone, every
edit goes through with the same recalculated cells or is refused for the same rule or the same
circle, and both end in the same sheet. -/
theorem case_irrelevant (settings : Settings) (nameCase : NameCase)
    (either : nameCase = .upper ∨ nameCase = .lower)
    (cased : settings.naming.normalize = nameCase.apply) (script recased : List Edit)
    (same : List.Forall₂ Edit.Recased script recased) :
    (empty settings).answers recased = (empty settings).answers script ∧
      ((empty settings).transcript recased).2 = ((empty settings).transcript script).2 := by
  -- Both letter cases make a normalization that ignores it.
  have ignores : settings.naming.IgnoresCase := NameCase.ignoresCase either cased
  exact Reachable.empty.transcript_recased ignores same

/-- A cell is found, and a power of ten read, whichever case either is spelled in. -/
theorem case_irrelevant_upper :
    List.Forall₂ Edit.Recased [⟨"b1", "=2e1"⟩, ⟨"A1", "=b1*e"⟩] [⟨"B1", "=2E1"⟩, ⟨"a1", "=B1*E"⟩] ∧
      (empty ⟨NameCase.upper.naming, "v"⟩).answers [⟨"B1", "=2E1"⟩, ⟨"a1", "=B1*E"⟩] =
        (empty ⟨NameCase.upper.naming, "v"⟩).answers [⟨"b1", "=2e1"⟩, ⟨"A1", "=b1*e"⟩] ∧
      ((empty ⟨NameCase.upper.naming, "v"⟩).transcript [⟨"B1", "=2E1"⟩, ⟨"a1", "=B1*E"⟩]).2 =
        ((empty ⟨NameCase.upper.naming, "v"⟩).transcript [⟨"b1", "=2e1"⟩, ⟨"A1", "=b1*e"⟩]).2 := by
  -- Each edit differs from its counterpart in the case of some letters.
  have power : Edit.Recased ⟨"b1", "=2e1"⟩ ⟨"B1", "=2E1"⟩ :=
    ⟨by decide, .inr ⟨"2e1", "2E1", by decide, by decide, by decide⟩⟩
  have names : Edit.Recased ⟨"A1", "=b1*e"⟩ ⟨"a1", "=B1*E"⟩ :=
    ⟨by decide, .inr ⟨"b1*e", "B1*E", by decide, by decide, by decide⟩⟩
  have same := List.Forall₂.cons power (.cons names .nil)
  exact ⟨same, case_irrelevant ⟨NameCase.upper.naming, "v"⟩ .upper (.inl rfl) rfl _ _ same⟩

end Sheet

end Worksheet
