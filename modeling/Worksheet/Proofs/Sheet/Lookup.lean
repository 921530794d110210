import Worksheet.Proofs.Formula.Failure
import Worksheet.Proofs.Sheet.Sound

/-!
What a formula sees of the other cells: each variable stands for a cell that the formula's own cell
depends on, and a formula without a value fails by itself or passes on why such a cell has failed.
-/

namespace Worksheet.Sheet

variable {sheet other : Sheet} {name v : String} {f : Formula} {reason : Reason}

/-- Under a stable normalization the variables of stored formulas are normalized for good. -/
theorem Sound.normalize_reference (sound : sheet.Sound) (stable : sheet.settings.naming.Stable)
    (holds : sheet.stored? name = some (.formula f)) (member : v ∈ f.references) :
    sheet.settings.naming.normalize v = v := by
  -- A variable of a formula that was read is the normalization of what was written.
  cases sound.entered name _ holds with
  | formula read =>
    obtain ⟨written, rfl, legal, -⟩ := Formula.acceptsVariable_of_mem_references read member
    exact stable written legal

/-- A stored formula's variables are what its cell depends on. -/
theorem Sound.edge_of_mem_references (sound : sheet.Sound)
    (holds : sheet.stored? name = some (.formula f)) (member : v ∈ f.references) :
    sheet.graph.Edge v name := by
  -- Dependencies mirror the variables of stored formulas.
  rw [sound.mirrored, referencesAt, holds]
  exact member

/-- The number behind a variable is that of the cell with its normalized name. -/
theorem lookup_congr (settings : other.settings = sheet.settings)
    (same : other.cells[sheet.settings.naming.normalize v]? =
      sheet.cells[sheet.settings.naming.normalize v]?) :
    other.lookup v = sheet.lookup v := by
  -- The settings decide which cell is looked at, and that cell is the same.
  have names : other.cellName? v = sheet.cellName? v := by
    simp only [cellName?, settings]
  unfold lookup
  rw [names, settings]
  cases named : sheet.cellName? v with
  | none => rfl
  | some name =>
    rw [(cellName?_eq_some named).1]
    simp only [same]

/-- A variable has no number because it stands for no cell, or because its cell is not there, is
worth a text or has failed. -/
theorem lookup_error {error : LookupError} (failed : sheet.lookup v = .error error) :
    (sheet.cellName? v = none ∧ error = .invalidName (sheet.settings.naming.normalize v)) ∨
    ∃ target, sheet.cellName? v = some target ∧
      ((sheet.cells[target]? = none ∧ error = .empty target) ∨
      ∃ cell, sheet.cells[target]? = some cell ∧
        ((∃ text, cell.value = .text text ∧ error = .notANumber target) ∨
        ∃ passed, cell.value = .error passed ∧ error = .failed target passed)) := by
  -- The look-up asks for the name first, then for the cell and then for its value.
  unfold lookup at failed
  split at failed
  · rename_i unnamed
    exact Or.inl ⟨unnamed, (Except.error.inj failed).symm⟩
  · rename_i target named
    refine Or.inr ⟨target, named, ?_⟩
    split at failed
    · -- No cell is stored there.
      rename_i absent
      exact Or.inl ⟨Option.map_eq_none_iff.mp absent, (Except.error.inj failed).symm⟩
    · cases failed
    · -- The value is a text.
      rename_i text found
      obtain ⟨cell, stored, value⟩ := Option.map_eq_some_iff.mp found
      exact Or.inr ⟨cell, stored, Or.inl ⟨text, value, (Except.error.inj failed).symm⟩⟩
    · -- The value is an error, which is passed on.
      rename_i passed found
      obtain ⟨cell, stored, value⟩ := Option.map_eq_some_iff.mp found
      exact Or.inr ⟨cell, stored, Or.inr ⟨passed, value, (Except.error.inj failed).symm⟩⟩

/-- Whether the evaluation of a formula on a sheet stops at a variable. -/
def StopsAt (sheet : Sheet) (f : Formula) (v : String) : Prop :=
  ∃ error, Stacks.StopsAt sheet.lookup .empty f.tokens v error

/-- Why a formula fails by itself, and not because a cell that it refers to has failed: its operators
and parentheses fail where every variable has a number, or the variable at which its evaluation stops
stands for no cell, for an empty one or for one that is worth a text. -/
inductive FailsItself (sheet : Sheet) (f : Formula) : Reason → Prop
  | operation {reason : Reason} (failed : f.evaluate sheet.lookup = .error reason)
    (own : reason = .malformed ∨ reason = .divisionByZero) (answered : ∀ v, ¬sheet.StopsAt f v) :
    FailsItself sheet f reason
  | invalidName {v : String} (stops : sheet.StopsAt f v) (unnamed : sheet.cellName? v = none) :
    FailsItself sheet f (.invalidName (sheet.settings.naming.normalize v))
  | emptyCell {v target : String} (stops : sheet.StopsAt f v)
    (named : sheet.cellName? v = some target) (absent : sheet.cells[target]? = none) :
    FailsItself sheet f (.emptyCell target)
  | notANumber {v target text : String} {cell : Cell} (stops : sheet.StopsAt f v)
    (named : sheet.cellName? v = some target) (found : sheet.cells[target]? = some cell)
    (worth : cell.value = .text text) : FailsItself sheet f (.notANumber target)

/-- A formula that stops at a variable fails for the reason that the variable has. -/
theorem StopsAt.evaluate_eq {error : LookupError} (stops : sheet.StopsAt f v)
    (failed : sheet.lookup v = .error error) : f.evaluate sheet.lookup = .error error.reason := by
  obtain ⟨met, stopped⟩ := stops
  -- What the evaluation has met is what the variable is looked up as.
  obtain rfl := Except.error.inj (stopped.lookup_eq.symm.trans failed)
  exact Token.evaluate_of_stopsAt stopped

/-- A formula that fails by itself has no value, and for just that reason. -/
theorem FailsItself.evaluate_eq (fails : sheet.FailsItself f reason) :
    f.evaluate sheet.lookup = .error reason := by
  -- Each local reason is what the look-up of the variable gives, where the evaluation stops.
  cases fails with
  -- Where every variable has a number, the operators fail themselves.
  | operation failed own answered => exact failed
  | @invalidName v stops unnamed =>
    have failed : sheet.lookup v = .error (.invalidName (sheet.settings.naming.normalize v)) := by
      rw [lookup, unnamed]
    exact stops.evaluate_eq failed
  | @emptyCell v target stops named absent =>
    have failed : sheet.lookup v = .error (.empty target) := by
      simp only [lookup, named, absent, Option.map_none]
    exact stops.evaluate_eq failed
  | @notANumber v target text cell stops named found worth =>
    have failed : sheet.lookup v = .error (.notANumber target) := by
      simp only [lookup, named, found, Option.map_some, worth]
    exact stops.evaluate_eq failed

/-- A stored formula without a value fails by itself, or its cell depends on one that has failed for
the same reason. -/
theorem Sound.evaluate_error (sound : sheet.Sound) (stable : sheet.settings.naming.Stable)
    (holds : sheet.stored? name = some (.formula f))
    (failed : f.evaluate sheet.lookup = .error reason) :
    sheet.FailsItself f reason ∨ ∃ v cell, sheet.graph.Edge v name ∧
      sheet.cells[v]? = some cell ∧ cell.value = .error reason := by
  rcases Token.evaluate_error failed with ⟨v, error, stopped, rfl⟩ | ⟨own, answered⟩
  · -- The evaluation stops at a variable, and that has a reason of its own or one of its cell.
    have stops : sheet.StopsAt f v := ⟨error, stopped⟩
    rcases lookup_error stopped.lookup_eq with ⟨unnamed, rfl⟩ | ⟨target, named, behind⟩
    · exact Or.inl (.invalidName stops unnamed)
    · rcases behind with ⟨absent, rfl⟩ | ⟨cell, found, behind⟩
      · exact Or.inl (.emptyCell stops named absent)
      · rcases behind with ⟨text, worth, rfl⟩ | ⟨passed, worth, rfl⟩
        · exact Or.inl (.notANumber stops named found worth)
        · -- The cell of the variable has the variable's own name.
          have member := Formula.mem_references.mpr stopped.mem
          have same := (cellName?_eq_some named).1
          rw [sound.normalize_reference stable holds member] at same
          subst same
          exact Or.inr ⟨target, cell, sound.edge_of_mem_references holds member, found, worth⟩
  · -- No variable is to blame.
    refine Or.inl (.operation failed own ?_)
    intro v ⟨error, stopped⟩
    exact answered v error stopped

end Worksheet.Sheet
