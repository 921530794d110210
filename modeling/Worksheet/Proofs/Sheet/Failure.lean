import Worksheet.Proofs.Sheet.History

/-!
Where errors come from: the error of a cell is passed on to it along a chain of formulas, unchanged,
from a formula that fails by itself.
-/

namespace Worksheet.Sheet

variable {sheet : Sheet} {name next : String} {cell : Cell} {f : Formula} {reason : Reason}
  {rest : List String}

/-- How a failure has come to the first cell of a chain: each cell refers to the next one, all hold
formulas and are worth the failure, and the formula of the last one fails by itself. -/
structure Traced (sheet : Sheet) (reason : Reason) (chain : List String) : Prop where
  linked : chain.IsChain fun name next => next ∈ sheet.referencesAt name
  failed : ∀ name ∈ chain, ∃ f, sheet.cells[name]? = some ⟨.formula f, .error reason⟩
  rooted : ∃ root f, chain.getLast? = some root ∧ sheet.stored? root = some (.formula f) ∧
    sheet.FailsItself f reason

/-- A formula that fails by itself is all there is to trace. -/
theorem Traced.single (found : sheet.cells[name]? = some ⟨.formula f, .error reason⟩)
    (fails : sheet.FailsItself f reason) : sheet.Traced reason [name] := by
  -- The one cell is the first and the last of the trace.
  refine ⟨.singleton name, ?_, name, f, rfl, stored?_of_found found, fails⟩
  intro other member
  rw [List.mem_singleton.mp member]
  exact ⟨f, found⟩

/-- A cell that refers to a traced one and has failed for the same reason is traced through it. -/
theorem Traced.cons (traced : sheet.Traced reason (next :: rest))
    (refers : next ∈ sheet.referencesAt name)
    (found : sheet.cells[name]? = some ⟨.formula f, .error reason⟩) :
    sheet.Traced reason (name :: next :: rest) := by
  -- The root of the trace stays where it is.
  refine ⟨List.isChain_cons_cons.mpr ⟨refers, traced.linked⟩, ?_, ?_⟩
  · exact List.forall_mem_cons.mpr ⟨⟨f, found⟩, traced.failed⟩
  · rw [List.getLast?_cons_cons]
    exact traced.rooted

/-- A cell that is worth an error holds a formula, which has no value for that reason. -/
theorem CurrentBut.formula_of_error (current : sheet.CurrentBut [])
    (found : sheet.cells[name]? = some cell) (failed : cell.value = .error reason) :
    ∃ f, cell = ⟨.formula f, .error reason⟩ ∧ f.evaluate sheet.lookup = .error reason := by
  -- Numbers and texts are worth themselves, which is no error.
  obtain ⟨contents, value⟩ := cell
  have worth := current.value_eq found
  dsimp only at failed worth
  subst failed
  cases contents with
  | number x => cases worth
  | text s => cases worth
  | formula f =>
    refine ⟨f, rfl, ?_⟩
    -- An error is the value of an evaluation only if the evaluation gives it.
    cases evaluated : f.evaluate sheet.lookup with
    | ok x => simp [Sheet.worth, evaluate, evaluated, Value.ofResult] at worth
    | error other =>
      simp only [Sheet.worth, evaluate, evaluated, Value.ofResult, Value.error.injEq] at worth
      rw [worth]

/-- A formula that fails by itself leaves its cell with the error. -/
theorem CurrentBut.isError_of_fails (current : sheet.CurrentBut [])
    (found : sheet.cells[name]? = some cell) (holds : cell.contents = .formula f)
    (fails : sheet.FailsItself f reason) : cell.value.isError = true := by
  -- The value is that of the formula, which has failed.
  have worth := current.value_eq found
  rw [worth, holds, Sheet.worth, evaluate, fails.evaluate_eq]
  rfl

/-- Every error on a sheet without circular dependencies is traced, if all values are settled. -/
theorem Sound.exists_traced (sound : sheet.Sound) (stable : sheet.settings.naming.Stable)
    (current : sheet.CurrentBut []) (found : sheet.cells[name]? = some cell)
    (failed : cell.value = .error reason) : ∃ rest, sheet.Traced reason (name :: rest) := by
  -- A cell that passes on the failure of another one is left to what that one depends on.
  induction name using sound.acyclic.wellFounded.induction generalizing cell with
  | _ name ih =>
    obtain ⟨f, rfl, evaluated⟩ := current.formula_of_error found failed
    rcases sound.evaluate_error stable (stored?_of_found found) evaluated with
      fails | ⟨v, other, edge, otherFound, passed⟩
    · exact ⟨[], .single found fails⟩
    · obtain ⟨rest, traced⟩ := ih v edge otherFound passed
      exact ⟨v :: rest, traced.cons ((sound.mirrored v name).mp edge) found⟩

/-- If names are normalized for good, every error on a reachable sheet has a root cause: a chain of
formulas, each of which refers to the next, that are all worth the same error, and the last of which
fails by itself. So there are no errors on the sheet exactly if no stored formula fails by itself. -/
theorem error_rooted (settings : Settings) (stable : settings.naming.Stable) (sheet : Sheet)
    (reachable : Reachable settings sheet) :
    (∀ (name : String) (cell : Cell) (reason : Reason), sheet.cells[name]? = some cell →
      cell.value = .error reason → ∃ rest, sheet.Traced reason (name :: rest)) ∧
    ((∀ name f reason, sheet.stored? name = some (.formula f) → ¬sheet.FailsItself f reason) ↔
      ∀ (name : String) (cell : Cell), sheet.cells[name]? = some cell →
        cell.value.isError = false) := by
  -- On a reachable sheet every value is current, so that an error can be traced along the edges.
  have sound := reachable.sound
  have current := reachable.current stable
  have fixed : sheet.settings.naming.Stable := by
    rwa [reachable.settings_eq]
  refine ⟨fun name cell reason found failed => sound.exists_traced fixed current found failed, ?_⟩
  constructor
  · intro none name cell found
    cases value : cell.value with
    | number x => rfl
    | text s => rfl
    | error reason =>
      -- The last cell of the chain would hold a formula that fails by itself.
      obtain ⟨rest, traced⟩ := sound.exists_traced fixed current found value
      obtain ⟨root, f, -, holds, fails⟩ := traced.rooted
      exact absurd fails (none root f reason holds)
  · -- A formula that fails by itself would show its error.
    intro valued name f reason holds fails
    obtain ⟨cell, found, contents⟩ := Option.map_eq_some_iff.mp holds
    have error := current.isError_of_fails found contents fails
    rw [valued name cell found] at error
    cases error

/-- An input with a division of zero by itself is read as that formula. -/
theorem ofInput_quotient : Contents.ofInput .plain "=0/0" =
    .ok (some (.formula ⟨[.number ⟨0⟩, .operator .div, .number ⟨0⟩]⟩)) := by
  -- What stands behind the sign is checked as three tokens.
  have tokens : Token.ofText "0/0" = [.number ⟨0⟩, .operator .div, .number ⟨0⟩] := by decide +kernel
  have formula : Formula.ofText .plain "0/0" =
      .ok ⟨[.number ⟨0⟩, .operator .div, .number ⟨0⟩]⟩ := by
    rw [Formula.ofText_eq_ok, tokens]
    exact ⟨rfl, rfl⟩
  exact Contents.ofInput_formula rfl (by decide +kernel) formula

/-- A division by zero that is entered into a cell is the error of the formula that refers to it, and
it is traced. -/
theorem error_rooted_division :
    let sheet := (((Sheet.empty .plain).set "A1" "=B1").2.set "B1" "=0/0").2
    Settings.plain.naming.Stable ∧ Reachable .plain sheet ∧
      sheet.cells["A1"]?.map Cell.value = some (.error .divisionByZero) ∧
      ∃ rest, sheet.Traced .divisionByZero ("A1" :: rest) := by
  intro sheet
  -- The second edit gives the variable of the first one a formula that fails by itself.
  have stable : Settings.plain.naming.Stable := fun _ _ => rfl
  have before : Reachable .plain ((Sheet.empty .plain).set "A1" "=B1").2 := .set "A1" "=B1" .empty
  have reachable : Reachable .plain sheet := .set "B1" "=0/0" before
  have read : Contents.ofInput ((Sheet.empty .plain).set "A1" "=B1").2.settings.naming "=0/0" =
      .ok (some (.formula ⟨[.number ⟨0⟩, .operator .div, .number ⟨0⟩]⟩)) := by
    rw [before.settings_eq]
    exact ofInput_quotient
  have through : (((Sheet.empty .plain).set "A1" "=B1").2.set "B1" "=0/0").1.isOk = true := by
    apply before.sound.isOk_set (before.cellName?_plain (by decide +kernel)) read
    -- A formula without variables closes no cycle.
    intro ⟨f, formula, v, refers, _⟩
    cases formula
    exact List.not_mem_nil refers
  -- Both cells are worth what their formulas are worth behind the edit.
  obtain ⟨stored, -, -⟩ := set_of_wentThrough before.sound.consistent through
  rw [read, before.settings_eq] at stored
  have current := reachable.current stable
  have second : sheet.stored? "B1" =
      some (.formula ⟨[.number ⟨0⟩, .operator .div, .number ⟨0⟩]⟩) := stored "B1"
  have first : sheet.stored? "A1" = some (.formula ⟨[.reference "B1"]⟩) :=
    (stored "A1").trans (stored?_of_found set_reference)
  obtain ⟨divided, found, contents⟩ := Option.map_eq_some_iff.mp second
  have quotient : divided.value = .error .divisionByZero := by
    rw [current.value_eq found, contents]
    rfl
  have named : sheet.cellName? "B1" = some "B1" := reachable.cellName?_plain (by decide +kernel)
  have failed : sheet.lookup "B1" = .error (.failed "B1" .divisionByZero) := by
    simp only [lookup, named, found, Option.map_some, quotient]
  obtain ⟨cell, holding, reference⟩ := Option.map_eq_some_iff.mp first
  -- The formula of the first edit stops at its variable, for the reason that the other cell shows.
  have passed : cell.value = .error .divisionByZero := by
    have stops : Stacks.StopsAt sheet.lookup .empty [.reference "B1"] "B1" _ :=
      ⟨[], [], .empty, rfl, rfl, failed⟩
    rw [current.value_eq holding, reference, worth, evaluate,
      Formula.evaluate, Token.evaluate_of_stopsAt stops]
    rfl
  refine ⟨stable, reachable, ?_, ?_⟩
  · rw [holding, Option.map_some, passed]
  · exact (error_rooted .plain stable sheet reachable).1 "A1" cell .divisionByZero holding passed

end Worksheet.Sheet
