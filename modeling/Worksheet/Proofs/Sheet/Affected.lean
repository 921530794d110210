import Worksheet.Proofs.Sheet.Circular

/-!
What an edit that goes through changes: the contents under one name, the pairs that end there, and
the values of the cells that it lists, which are the name and everything that depends on it.
-/

namespace Worksheet.Sheet

open Relation

variable {sheet after : Sheet} {name input target key : String} {contents : Option Contents}
  {order : List String}

/-- What there is to know of an edit that goes through: what was read is placed under the name, and
the order of recalculation from there is gone through. -/
structure Applied (sheet : Sheet) (target : String) (contents : Option Contents)
    (order : List String) (after : Sheet) : Prop where
  ordered : (sheet.placed target contents).graph.order target = .ok order
  result : after = { (sheet.placed target contents).recalculate order with changed := true }

/-- An edit that goes through applies what is read from its input to the name that it stands for. -/
theorem applied_of_set (consistent : sheet.graph.Consistent)
    (done : sheet.set name input = (.ok order, after)) :
    ∃ target contents, sheet.cellName? name = some target ∧
      Contents.ofInput sheet.settings.naming input = .ok contents ∧
      sheet.Applied target contents order after := by
  rcases set_cases consistent name input with
    ⟨error, refused⟩ | ⟨target, contents, listed, named, read, ordered, through⟩
  · -- A refused edit gives no order.
    rw [refused] at done
    cases done
  · -- The order that the edit gives is the one that it goes through.
    rw [through] at done
    cases done
    exact ⟨target, contents, named, read, ordered, rfl⟩

/-- An edit that goes through has an allowed name and an input that is read and applied there. -/
theorem applied_of_isOk (consistent : sheet.graph.Consistent)
    (through : (sheet.set name input).1.isOk = true) :
    ∃ contents order, sheet.cellName? name = some (sheet.settings.naming.normalize name) ∧
      Contents.ofInput sheet.settings.naming input = .ok contents ∧
      sheet.Applied (sheet.settings.naming.normalize name) contents order
        (sheet.set name input).2 := by
  -- An edit that goes through answers with an order, and its name is normalized.
  obtain ⟨order, answered⟩ := exists_of_isOk through
  obtain ⟨target, contents, named, read, applied⟩ := applied_of_set consistent answered
  obtain rfl := (cellName?_eq_some named).1
  exact ⟨contents, order, named, read, applied⟩

/-- A recalculation leaves every cell alone that it does not list. -/
theorem getElem?_recalculate (unlisted : key ∉ order) :
    (sheet.recalculate order).cells[key]? = sheet.cells[key]? := by
  -- Each step writes the cell of one listed name at most.
  induction order generalizing sheet with
  | nil => rfl
  | cons first rest ih =>
    rw [List.mem_cons, not_or] at unlisted
    exact (ih unlisted.2).trans (getElem?_refresh (Ne.symm unlisted.1))

/-- The dependencies behind an edit are those of the placed contents. -/
theorem Applied.graph (applied : sheet.Applied target contents order after) :
    after.graph = (sheet.placed target contents).graph := by
  -- The recalculation has no part in them.
  rw [applied.result]
  exact (recalculate_frame (sheet.placed target contents) order).2.1

/-- The contents behind an edit are the new ones under its name and the old ones elsewhere. -/
theorem Applied.stored? (applied : sheet.Applied target contents order after) (key : String) :
    after.stored? key = if target = key then contents else sheet.stored? key := by
  -- The recalculation writes each cell with the contents that it had.
  rw [← stored?_placed, applied.result]
  exact (recalculate_frame (sheet.placed target contents) order).2.2 key

/-- There is something to save behind an edit. -/
theorem Applied.changed (applied : sheet.Applied target contents order after) :
    after.changed = true := by
  rw [applied.result]

/-- An edit leaves every cell alone that it does not list. -/
theorem Applied.getElem? (applied : sheet.Applied target contents order after)
    (listed : target ∈ order) (unlisted : key ∉ order) : after.cells[key]? = sheet.cells[key]? := by
  -- The edited cell is listed itself, so that any other one is meant.
  have different : target ≠ key := by
    intro same
    exact unlisted (same ▸ listed)
  rw [applied.result]
  calc ((sheet.placed target contents).recalculate order).cells[key]?
    _ = (sheet.placed target contents).cells[key]? := getElem?_recalculate unlisted
    _ = sheet.cells[key]? := by rw [getElem?_placed, if_neg different]

/-- What an edit that is not refused leaves behind: its contents stored under the name that it stands
for and all others kept, the settings as they were, and something to save. -/
theorem set_of_wentThrough (consistent : sheet.graph.Consistent)
    (through : (sheet.set name input).1.isOk = true) :
    (∀ key, (sheet.set name input).2.stored? key =
      if sheet.settings.naming.normalize name = key then
        (Contents.ofInput sheet.settings.naming input).toOption.join
      else sheet.stored? key) ∧
    (sheet.set name input).2.settings = sheet.settings ∧
    (sheet.set name input).2.changed = true := by
  obtain ⟨contents, order, -, read, applied⟩ := applied_of_isOk consistent through
  refine ⟨fun key => ?_, set_settings consistent name input, applied.changed⟩
  -- What is stored under the name is what the input was read as.
  rw [applied.stored?, read]
  rfl

/-- The order of an edit is the order of recalculation behind it as well. -/
theorem Applied.order_after (applied : sheet.Applied target contents order after) :
    after.graph.order target = .ok order := by
  -- The walk saw the dependencies that the edit leaves behind.
  rw [applied.graph]
  exact applied.ordered

/-- An edit exchanges no pairs but those that end in its name. -/
theorem Applied.edge_iff {u v : String} (applied : sheet.Applied target contents order after)
    (consistent : sheet.graph.Consistent) (different : v ≠ target) :
    after.graph.Edge u v ↔ sheet.graph.Edge u v := by
  -- The edges that were replaced all end in the edited name.
  have edges : (sheet.placed target contents).graph.Edge u v ↔
      (sheet.graph.Edge u v ∧ v ≠ target) ∨
        (u ∈ (contents.map Contents.references).getD [] ∧ v = target) :=
    consistent.edge_replaceDependees
  rw [applied.graph, edges]
  simp [different]

/-- A cell within reach of another one holds a formula. -/
theorem Sound.formula_of_reach (sound : sheet.Sound) (path : ReflTransGen sheet.graph.Edge target key)
    (different : key ≠ target) :
    ∃ cell f, sheet.cells[key]? = some cell ∧ cell.contents = .formula f := by
  -- The last step of the way is a variable of the formula.
  rcases path.cases_tail with same | ⟨before, -, edge⟩
  · exact absurd same different
  · rw [sound.mirrored, mem_referencesAt] at edge
    obtain ⟨cell, f, found, formula, -⟩ := edge
    exact ⟨cell, f, found, formula⟩

/-- An edit that goes through lists its normalized name first and, without repetition, exactly the
names that depend on it afterwards, each behind all listed ones that it depends on itself. All but
the first hold formulas. Nothing else changes: contents only under that name, to what is read from
the input, values only of listed cells, and dependencies only of that name. -/
theorem affected_of_set (settings : Settings) (sheet after : Sheet) (name input : String)
    (order : List String) (reachable : Reachable settings sheet)
    (done : sheet.set name input = (.ok order, after)) :
    order.head? = some (settings.naming.normalize name) ∧ order.Nodup ∧
    (∀ c, c ∈ order ↔ c = settings.naming.normalize name ∨
      TransGen after.graph.Edge (settings.naming.normalize name) c) ∧
    (∀ u v, after.graph.Edge u v → u ∈ order → v ∈ order ∧ order.idxOf u < order.idxOf v) ∧
    (∀ c ∈ order, c ≠ settings.naming.normalize name →
      ∃ cell f, after.cells[c]? = some cell ∧ cell.contents = .formula f) ∧
    Contents.ofInput settings.naming input =
      .ok (after.stored? (settings.naming.normalize name)) ∧
    (∀ c, c ≠ settings.naming.normalize name → after.stored? c = sheet.stored? c) ∧
    (∀ c, c ∉ order → after.cells[c]? = sheet.cells[c]?) ∧
    ∀ u v, v ≠ settings.naming.normalize name →
      (after.graph.Edge u v ↔ sheet.graph.Edge u v) := by
  -- What was read has been applied to the normalized name.
  have sound := reachable.sound
  have soundAfter : after.Sound := by
    have kept := sound.set name input
    rwa [done] at kept
  obtain ⟨target, contents, named, read, applied⟩ := applied_of_set sound.consistent done
  obtain rfl : target = settings.naming.normalize name := by
    rw [(cellName?_eq_some named).1, reachable.settings_eq]
  -- The list is an order of recalculation on the sheet behind the edit.
  have ordered := applied.order_after
  have schedule := soundAfter.consistent.schedule ordered
  have reach : ∀ c, c ∈ order ↔ ReflTransGen after.graph.Edge (settings.naming.normalize name) c :=
    fun c => soundAfter.consistent.mem_order_iff ordered
  refine ⟨soundAfter.consistent.head?_order ordered, schedule.distinct, ?_, ?_, ?_, ?_, ?_, ?_, ?_⟩
  · intro c
    rw [reach, reflTransGen_iff_eq_or_transGen]
  · -- A schedule lists what depends on a listed name, and behind it.
    intro u v edge listed
    have behind := schedule.settled.idxOf_lt schedule.distinct listed edge
    exact ⟨schedule.settled.closed listed edge, behind⟩
  · intro c listed different
    exact soundAfter.formula_of_reach ((reach c).mp listed) different
  · -- What was read is stored, nothing if the cell was cleared.
    rw [applied.stored?, if_pos rfl, ← read, reachable.settings_eq]
  · -- Nothing is stored under any other name.
    intro c different
    rw [applied.stored?, if_neg (Ne.symm different)]
  · intro c unlisted
    exact applied.getElem? schedule.start_mem unlisted
  · intro u v different
    exact applied.edge_iff sound.consistent different

/-- Entering a text under a name to which a formula refers affects that formula as well. -/
theorem affected_of_set_reference :
    Reachable .plain ((Sheet.empty .plain).set "A1" "=B1").2 ∧
      ∃ order after, ((Sheet.empty .plain).set "A1" "=B1").2.set "B1" "x" = (.ok order, after) ∧
        "A1" ∈ order := by
  have reachable : Reachable .plain ((Sheet.empty .plain).set "A1" "=B1").2 :=
    .set "A1" "=B1" .empty
  -- A text is never refused under a cell name.
  have legal : isCellName "B1" = true := by decide +kernel
  have through := reachable.isOk_set_text legal
  cases answer : (((Sheet.empty .plain).set "A1" "=B1").2.set "B1" "x").1 with
  | error error =>
    rw [answer] at through
    cases through
  | ok order =>
    obtain ⟨-, -, members, -, -, -, -, -, kept⟩ :=
      affected_of_set .plain _ _ "B1" "x" order reachable (Prod.ext answer rfl)
    -- The variable of the formula is what its cell still depends on.
    have edge := (kept "B1" "A1" (by decide)).mpr edge_set_reference
    exact ⟨reachable, order, _, Prod.ext answer rfl, (members "A1").mpr (Or.inr (.single edge))⟩

end Worksheet.Sheet
