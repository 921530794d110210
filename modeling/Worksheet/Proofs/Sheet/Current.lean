import Worksheet.Proofs.Sheet.Affected
import Worksheet.Proofs.Sheet.Lookup

/-!
Every stored value is what the contents of its cell are worth on the sheet as it is, although an edit
evaluates only the formulas that its order of recalculation lists.
-/

namespace Worksheet.Sheet

variable {sheet other : Sheet} {name key : String} {contents : Option Contents}
  {order rest : List String} {f : Formula}

/-- What contents are worth on a sheet as it is. -/
def worth (sheet : Sheet) : Contents → Value
  | .number value => .number value
  | .text value => .text value
  | .formula f => sheet.evaluate f

/-- Whether the value of every stored cell is what its contents are worth, and that of no formula is
still to come, except perhaps for the formulas under some names. -/
def CurrentBut (sheet : Sheet) (names : List String) : Prop :=
  ∀ name cell, sheet.cells[name]? = some cell → (∀ f, cell.contents = .formula f → name ∉ names) →
    cell.value = sheet.worth cell.contents ∧ cell.value ≠ .error .pending

/-- Where every value is settled, that of a cell is what its contents are worth. -/
theorem CurrentBut.value_eq {cell : Cell} (current : sheet.CurrentBut [])
    (found : sheet.cells[name]? = some cell) : cell.value = sheet.worth cell.contents :=
  (current name cell found fun _ _ => List.not_mem_nil).1

/-- A cell that depends on another one holds a formula. -/
theorem Sound.formula_of_edge (sound : sheet.Sound) {v : String} {cell : Cell}
    (edge : sheet.graph.Edge v name) (found : sheet.cells[name]? = some cell) :
    ∃ f, cell.contents = .formula f := by
  -- Dependencies stem from stored formulas.
  rw [sound.mirrored, mem_referencesAt] at edge
  obtain ⟨other, f, stored, formula, -⟩ := edge
  cases found.symm.trans stored
  exact ⟨f, formula⟩

/-- What a cell is worth depends on nothing but the cells that it depends on. -/
theorem Sound.worth_congr (sound : sheet.Sound) (stable : sheet.settings.naming.Stable)
    {value : Contents} (holds : sheet.stored? name = some value)
    (settings : other.settings = sheet.settings)
    (agree : ∀ v, sheet.graph.Edge v name → other.cells[v]? = sheet.cells[v]?) :
    other.worth value = sheet.worth value := by
  -- A formula looks at its variables only, each of which names a cell that it depends on.
  cases value with
  | number value => rfl
  | text value => rfl
  | formula f =>
    have lookups : ∀ v, .reference v ∈ f.tokens → other.lookup v = sheet.lookup v := by
      intro v refers
      have member := Formula.mem_references.mpr refers
      apply lookup_congr settings
      rw [sound.normalize_reference stable holds member]
      exact agree v (sound.edge_of_mem_references holds member)
    simp only [worth, evaluate, Formula.evaluate, Token.evaluate_congr lookups]

/-- Refreshing a cell leaves the worth of all cells alone that do not depend on it. -/
theorem Sound.worth_refresh (sound : sheet.Sound) (stable : sheet.settings.naming.Stable)
    {value : Contents} (holds : sheet.stored? key = some value)
    (apart : ∀ v, sheet.graph.Edge v key → v ≠ name) :
    (sheet.refresh name).worth value = sheet.worth value :=
  -- Only the refreshed cell may change, and nothing that is looked at is that one.
  sound.worth_congr stable holds refresh_settings fun v edge =>
    getElem?_refresh (Ne.symm (apart v edge))

/-- A formula has its value to come only if a cell that it depends on has. -/
theorem Sound.evaluate_ne_pending (sound : sheet.Sound) (stable : sheet.settings.naming.Stable)
    (holds : sheet.stored? name = some (.formula f))
    (current : ∀ v cell, sheet.graph.Edge v name → sheet.cells[v]? = some cell →
      cell.value ≠ .error .pending) :
    sheet.evaluate f ≠ .error .pending := by
  intro pending
  cases evaluated : f.evaluate sheet.lookup with
  | ok x => simp [evaluate, evaluated, Value.ofResult] at pending
  | error reason =>
    obtain rfl : reason = .pending := by
      simpa [evaluate, evaluated, Value.ofResult] using pending
    rcases sound.evaluate_error stable holds evaluated with fails | ⟨v, cell, edge, found, waits⟩
    · -- No formula fails for such a reason by itself.
      cases fails with
      | operation failed own answered => simp at own
    · exact current v cell edge found waits

/-- A refreshed formula is worth what its cell shows, if all that it depends on was settled before. -/
theorem CurrentBut.refresh_formula (current : sheet.CurrentBut order) (sound : sheet.Sound)
    (stable : sheet.settings.naming.Stable) (listed : name ∈ order)
    (earlier : ∀ v, sheet.graph.Edge v name → v ∉ order)
    (holds : sheet.stored? name = some (.formula f)) {cell : Cell}
    (found : (sheet.refresh name).cells[name]? = some cell) :
    cell.value = (sheet.refresh name).worth (.formula f) ∧ cell.value ≠ .error .pending := by
  have evaluated : cell.value = sheet.evaluate f := by
    rw [Sheet.refresh_formula holds, Std.ExtTreeMap.getElem?_insert_self] at found
    rw [← Option.some.inj found]
  rw [evaluated]
  constructor
  · -- The cell is none of those that its formula looks at.
    have apart : ∀ v, sheet.graph.Edge v name → v ≠ name := by
      rintro v edge rfl
      exact earlier v edge listed
    exact (sound.worth_refresh stable holds apart).symm
  · -- Nothing that the formula looks at is still to come.
    exact sound.evaluate_ne_pending stable holds fun v cell edge found =>
      (current v cell found fun _ _ => earlier v edge).2

/-- Refreshing a cell disturbs no value of another one that does not depend on it. -/
theorem CurrentBut.refresh_other (current : sheet.CurrentBut order) (sound : sheet.Sound)
    (stable : sheet.settings.naming.Stable) (different : name ≠ key)
    (apart : ∀ v, sheet.graph.Edge v key → v ≠ name) {cell : Cell}
    (found : (sheet.refresh name).cells[key]? = some cell)
    (reached : ∀ f, cell.contents = .formula f → key ∉ order) :
    cell.value = (sheet.refresh name).worth cell.contents ∧ cell.value ≠ .error .pending := by
  -- The cell holds what it held, which is worth what it was worth.
  rw [getElem?_refresh different] at found
  obtain ⟨same, settled⟩ := current key cell found reached
  exact ⟨same.trans (sound.worth_refresh stable (stored?_of_found found) apart).symm, settled⟩

/-- Refreshing the first name of an order settles it and disturbs no value that is settled. -/
theorem CurrentBut.refresh (current : sheet.CurrentBut (name :: rest)) (sound : sheet.Sound)
    (stable : sheet.settings.naming.Stable) (fresh : name ∉ rest)
    (settled : sheet.graph.Settled (name :: rest)) : (sheet.refresh name).CurrentBut rest := by
  intro key cell found reached
  have holds : sheet.stored? key = some cell.contents := by
    rw [← @stored?_refresh sheet name key, stored?_of_found found]
  by_cases same : name = key
  · subst same
    by_cases formula : ∃ f, cell.contents = .formula f
    · -- The order lists none of what its first name depends on.
      obtain ⟨f, formula⟩ := formula
      rw [formula] at holds ⊢
      exact current.refresh_formula sound stable (by simp)
        (fun v edge => settled.not_mem_of_edge fresh edge) holds found
    · -- Nothing happens to a cell without a formula, whose value has always been settled.
      have unchanged : sheet.refresh name = sheet := by
        apply refresh_of_no_formula
        intro f other
        exact formula ⟨f, Option.some.inj (holds.symm.trans other)⟩
      rw [unchanged] at found ⊢
      exact current name cell found fun f isFormula => absurd ⟨f, isFormula⟩ formula
  · -- The order lists all that depends on its first name, and no other cell is settled by now that
    -- was not so before.
    apply current.refresh_other sound stable same ?_ found ?_
    · rintro v edge rfl
      rw [getElem?_refresh same] at found
      obtain ⟨f, formula⟩ := sound.formula_of_edge edge found
      exact reached f formula (settled.1 key edge)
    · intro f formula listed
      rcases List.mem_cons.mp listed with again | later
      · exact same again.symm
      · exact reached f formula later

/-- A recalculation settles every formula in its order. -/
theorem CurrentBut.recalculate (current : sheet.CurrentBut order) (sound : sheet.Sound)
    (stable : sheet.settings.naming.Stable) (distinct : order.Nodup)
    (settled : sheet.graph.Settled order) : (sheet.recalculate order).CurrentBut [] := by
  -- Each step takes the first name off the order and keeps the rest of it settled.
  induction order generalizing sheet with
  | nil => exact current
  | cons name rest ih =>
    obtain ⟨fresh, restDistinct⟩ := List.nodup_cons.mp distinct
    have next := sound.transfer refresh_settings refresh_graph (@stored?_refresh sheet name)
    refine ih (current.refresh sound stable fresh settled) next ?_ restDistinct ?_
    · rwa [refresh_settings]
    · rw [refresh_graph]
      exact settled.2

/-- Placing contents unsettles no formula but those that the order of recalculation lists. -/
theorem CurrentBut.placed (current : sheet.CurrentBut []) (sound : sheet.Sound)
    (stable : sheet.settings.naming.Stable)
    (schedule : Graph.Schedule (sheet.placed name contents).graph name order) :
    (sheet.placed name contents).CurrentBut order := by
  intro key cell found reached
  rw [getElem?_placed] at found
  split at found
  · -- The new cell is in the order if it holds a formula, and else worth what it holds.
    rename_i same
    obtain ⟨value, -, entered⟩ := Option.map_eq_some_iff.mp found
    subst entered
    cases value with
    | number value => exact ⟨rfl, by simp [Cell.entered]⟩
    | text value => exact ⟨rfl, by simp [Cell.entered]⟩
    | formula f => exact absurd (same ▸ schedule.start_mem) (reached f rfl)
  · -- Every other cell holds and is worth what it was before.
    rename_i different
    have holds := stored?_of_found found
    have before := current key cell found fun _ _ => List.not_mem_nil
    have unchanged : (sheet.placed name contents).worth cell.contents = sheet.worth cell.contents := by
      refine sound.worth_congr stable holds (by rfl) fun v edge => ?_
      rw [getElem?_placed, if_neg]
      rintro rfl
      -- A cell that depends on the changed one did so before, and so it is in the order.
      have still : (sheet.placed name contents).graph.Edge name key :=
        sound.consistent.edge_replaceDependees.mpr (Or.inl ⟨edge, Ne.symm different⟩)
      obtain ⟨f, formula⟩ := sound.formula_of_edge edge found
      exact reached f formula (schedule.settled.closed schedule.start_mem still)
    exact ⟨before.1.trans unchanged.symm, before.2⟩

/-- Every stored value on a reachable sheet is settled if the normalization of names is stable. -/
theorem Reachable.current {settings : Settings} (stable : settings.naming.Stable)
    (reachable : Reachable settings sheet) : sheet.CurrentBut [] := by
  -- An edit unsettles the formulas in its order and then settles them by going through it.
  induction reachable with
  | empty =>
    intro name cell found
    simp [Sheet.empty] at found
  | @set sheet name input before ih =>
    have sound := before.sound
    rcases set_cases sound.consistent name input with
      ⟨error, refused⟩ | ⟨target, contents, order, named, read, ordered, done⟩
    · -- A refused edit leaves the sheet as it was.
      rw [refused]
      exact ih
    · -- What has been placed is recalculated in the order of the walk.
      have placed := sound.placed named read ordered
      have schedule := placed.consistent.schedule ordered
      rw [← before.settings_eq] at stable
      have settled := (ih.placed sound stable schedule).recalculate placed stable schedule.distinct
        schedule.settled
      rw [done]
      exact settled
  | markSaved before ih => exact ih

/-- Every letter case is a stable normalization, and under a stable one each stored value on a
reachable sheet is what the contents of its cell are worth there: a number or a text itself, and a
formula what it evaluates to, so that none is still to come. -/
theorem current_of_reachable :
    (∀ (nameCase : NameCase) (accepts : String → Bool),
      (Naming.mk nameCase.apply accepts).Stable) ∧
    ∀ (settings : Settings), settings.naming.Stable → ∀ sheet, Reachable settings sheet →
      ∀ (name : String) (cell : Cell), sheet.cells[name]? = some cell →
        (∀ x, cell.contents = .number x → cell.value = .number x) ∧
        (∀ s, cell.contents = .text s → cell.value = .text s) ∧
        (∀ f, cell.contents = .formula f → cell.value = sheet.evaluate f) ∧
        cell.value ≠ .error .pending := by
  -- What a cell is worth is spelled out for each kind of contents.
  refine ⟨NameCase.stable, fun settings stable sheet reachable name cell found => ?_⟩
  obtain ⟨current, settled⟩ := reachable.current stable name cell found fun _ _ => List.not_mem_nil
  refine ⟨?_, ?_, ?_, settled⟩
  · intro x holds
    rw [current, holds, worth]
  · intro s holds
    rw [current, holds, worth]
  · intro f holds
    rw [current, holds, worth]

/-- A variable that was entered while its cell was empty has the number that the cell is given later. -/
theorem current_of_reachable_reference :
    let before := ((Sheet.empty .plain).set "A1" "=B1").2
    let after := (before.set "B1" "2").2
    Settings.plain.naming.Stable ∧ Reachable .plain after ∧
      before.cells["A1"]?.map Cell.value = some (.error (.emptyCell "B1")) ∧
      after.cells["A1"]?.map Cell.value = some (.number ⟨0x4000000000000000⟩) := by
  intro before after
  -- Both edits go through, the second one because a number closes no cycle.
  have stable : Settings.plain.naming.Stable := fun _ _ => rfl
  have earlier : Reachable .plain before := .set "A1" "=B1" .empty
  have reachable : Reachable .plain after := .set "B1" "2" earlier
  have legal : isCellName "B1" = true := by decide +kernel
  have read : Contents.ofInput before.settings.naming "2" =
      .ok (some (.number ⟨0x4000000000000000⟩)) := by
    rw [earlier.settings_eq]
    decide +kernel
  have through : (before.set "B1" "2").1.isOk = true := by
    apply earlier.sound.isOk_set (earlier.cellName?_plain legal) read
    -- A number has no variables that could close a cycle.
    intro ⟨f, formula, _⟩
    cases formula
  -- The second edit stores the number and keeps the formula.
  obtain ⟨stored, -, -⟩ := set_of_wentThrough earlier.sound.consistent through
  rw [read, earlier.settings_eq] at stored
  have second : after.stored? "B1" = some (.number ⟨0x4000000000000000⟩) := stored "B1"
  have first : after.stored? "A1" = some (.formula ⟨[.reference "B1"]⟩) :=
    (stored "A1").trans (stored?_of_found set_reference)
  obtain ⟨entered, found, contents⟩ := Option.map_eq_some_iff.mp second
  have number := (current_of_reachable.2 .plain stable after reachable "B1" entered found).1 _ contents
  have seen : after.lookup "B1" = .ok ⟨0x4000000000000000⟩ := by
    simp only [lookup, reachable.cellName?_plain legal, found, Option.map_some, number]
  -- The formula sees that number, although it was entered when there was none.
  obtain ⟨cell, holding, reference⟩ := Option.map_eq_some_iff.mp first
  have current := (current_of_reachable.2 .plain stable after reachable "A1" cell holding).2.2.1 _
    reference
  have evaluated : after.evaluate ⟨[.reference "B1"]⟩ = .number ⟨0x4000000000000000⟩ := by
    simp only [evaluate, Formula.evaluate, Token.evaluate, List.foldlM_cons, Stacks.step, seen]
    rfl
  refine ⟨stable, reachable, ?_, ?_⟩
  · rw [set_reference, Option.map_some]
  · rw [holding, Option.map_some, current, evaluated]

end Worksheet.Sheet
