import Worksheet.Proofs.Session
import Worksheet.Proofs.Sheet.History

/-!
Entering what a cell shows: the input that a cell gives back changes nothing when it is entered
again, and it takes back whatever else has been entered into the cell.
-/

namespace Worksheet

namespace Sheet

open Relation

variable {settings : Settings} {sheet other : Sheet} {name target input : String}

/-- The input that a cell gives back is read as what is stored there, or as nothing where nothing is.
-/
theorem Reachable.ofInput_shown (reachable : Reachable settings sheet)
    (stable : settings.naming.Stable) (target : String) :
    Contents.ofInput settings.naming ((sheet.stored? target).getD (.text "")).input =
      .ok (sheet.stored? target) := by
  -- An empty cell shows an empty input, and any other one what its contents are read from again.
  cases holds : sheet.stored? target with
  | none => rfl
  | some contents =>
    obtain ⟨written, entered, -, read⟩ := reachable.exists_entered holds
    exact Contents.ofInput_input stable read

/-- A way along dependents on a sheet that differs in one cell is a way on the sheet itself, if it
begins at that cell. -/
theorem Sound.reach_of_elsewhere {v : String} (sound : sheet.Sound) (otherSound : other.Sound)
    (same : ∀ key, key ≠ target → other.stored? key = sheet.stored? key)
    (path : ReflTransGen other.graph.Edge target v) : ReflTransGen sheet.graph.Edge target v := by
  induction path with
  | refl => exact .refl
  | @tail u w _ edge ih =>
    -- A way that comes back to the cell begins there once more.
    by_cases back : w = target
    · rw [back]
    · rw [otherSound.mirrored, referencesAt, same w back] at edge
      exact ih.tail ((sound.mirrored u w).mpr edge)

/-- What was stored in a cell closes no cycle on a sheet that differs in that cell alone. -/
theorem Sound.not_closes_stored (sound : sheet.Sound) (otherSound : other.Sound)
    (same : ∀ key, key ≠ target → other.stored? key = sheet.stored? key) :
    ¬other.Closes target (sheet.stored? target) := by
  intro ⟨f, holds, v, refers, path⟩
  -- The cycle would have been there when the formula was stored.
  have before := sound.reach_of_elsewhere otherSound same path
  exact sound.acyclic target (.tail' before (sound.edge_of_mem_references holds refers))

/-- On a sheet that differs in one cell alone, entering what was stored there leads back to the
sheet. -/
theorem Reachable.set_stored (reachable : Reachable settings sheet)
    (otherReachable : Reachable settings other) (stable : settings.naming.Stable)
    (named : sheet.cellName? name = some target)
    (read : Contents.ofInput settings.naming input = .ok (sheet.stored? target))
    (same : ∀ key, key ≠ target → other.stored? key = sheet.stored? key) :
    ∃ order, other.set name input = (.ok order, { sheet with changed := true }) := by
  have otherSettings := otherReachable.settings_eq
  have agree : other.settings = sheet.settings := otherSettings.trans reachable.settings_eq.symm
  -- The contents close no cycle, since they close none where they are stored.
  have through : (other.set name input).1.isOk = true := by
    apply otherReachable.sound.isOk_set ((cellName?_congr agree name).trans named)
    · rwa [otherSettings]
    · exact reachable.sound.not_closes_stored otherReachable.sound same
  obtain ⟨stored, kept, changed⟩ := set_of_wentThrough otherReachable.sound.consistent through
  -- Behind the edit both sheets store the same, under the name and elsewhere.
  have back : ∀ key, (other.set name input).2.stored? key = sheet.stored? key := by
    intro key
    rw [stored, otherSettings, read, ← reachable.settings_eq, ← (cellName?_eq_some named).1]
    split
    · rename_i isTarget
      rw [← isTarget]
      rfl
    · rename_i isOther
      exact same key (Ne.symm isOther)
  -- The same contents bring back the same values and dependencies.
  obtain ⟨cells, graph⟩ := reachable.determined stable (otherReachable.set name input) back
  obtain ⟨order, answered⟩ := exists_of_isOk through
  have restored : (other.set name input).2 = { sheet with changed := true } :=
    eq_of_parts (kept.trans agree) cells graph changed
  exact ⟨order, by rw [answered, restored]⟩

/-- An edit leaves what is stored in other cells alone, whether it goes through or is refused. -/
theorem Sound.stored?_set (sound : sheet.Sound) (named : sheet.cellName? name = some target)
    (input : String) {key : String} (different : key ≠ target) :
    (sheet.set name input).2.stored? key = sheet.stored? key := by
  -- A refused edit changes nothing, and any other one stores under its own name.
  cases answered : (sheet.set name input).1 with
  | error error => rw [set_of_refused sound.consistent answered]
  | ok order =>
    have through : (sheet.set name input).1.isOk = true := by
      rw [answered]
      rfl
    rw [(set_of_wentThrough sound.consistent through).1, ← (cellName?_eq_some named).1,
      if_neg (Ne.symm different)]

end Sheet

namespace Session

/-- If names are normalized for good, a cell of a document gives back an input, the empty one where
nothing is stored, that can always be entered again. It changes nothing but that there is something
to save, and whatever else has been entered into the cell meanwhile, it leads back to the document as
it was: to its contents, its values and its dependencies. -/
theorem reentry_restores (settings : Settings) (files : FileTree) (operations : List Operation) :
    let document := (transcript ⟨.empty settings, files⟩ operations).2.document
    let restored := { document with sheet := { document.sheet with changed := true } }
    document.sheet.settings.naming.Stable → ∀ name target,
      document.sheet.cellName? name = some target →
      ∃ old, document.input name = .ok old ∧ (document.sheet.cells[target]? = none → old = "") ∧
        (∃ order, document.set name old = (.ok order, restored)) ∧
        ∀ input, ∃ order, (document.set name input).2.set name old = (.ok order, restored) := by
  intro document restored stable name target named
  have reachable : Sheet.Reachable document.sheet.settings document.sheet :=
    reachable_transcript settings files operations
  -- What is shown is read as what is stored.
  have read := reachable.ofInput_shown stable target
  refine ⟨((document.sheet.stored? target).getD (.text "")).input, ?_, ?_, ?_, ?_⟩
  · rw [Document.input, Sheet.contents_of_named named]
    rfl
  · intro absent
    rw [Sheet.stored?, absent]
    rfl
  · -- Without an edit in between, every other cell is the same.
    obtain ⟨order, same⟩ := reachable.set_stored reachable stable named read fun _ _ => rfl
    exact ⟨order, by rw [Document.set, same]⟩
  · intro input
    -- The edit has changed no other cell, so that the old input leads back.
    obtain ⟨order, same⟩ := reachable.set_stored (reachable.set name input) stable named read
      fun key different => reachable.sound.stored?_set named input different
    exact ⟨order, by rw [Document.set, Document.set, same]⟩

/-- A formula that is overwritten by a text comes back when it is entered once more. -/
theorem reentry_restores_overwritten :
    let document :=
      (transcript ⟨.empty .plain, .empty ["work"]⟩ [.set "A1" "=B1"]).2.document
    document.sheet.settings.naming.Stable ∧ document.sheet.cellName? "A1" = some "A1" ∧
      document.input "A1" = .ok "=B1" ∧
      ∃ order, (document.set "A1" "x").2.set "A1" "=B1" =
        (.ok order, { document with sheet := { document.sheet with changed := true } }) := by
  intro document
  have sheet : document.sheet = ((Sheet.empty .plain).set "A1" "=B1").2 := rfl
  have reachable : Sheet.Reachable .plain document.sheet := sheet ▸ .set "A1" "=B1" .empty
  have stable := reachable.stable_plain
  have named : document.sheet.cellName? "A1" = some "A1" :=
    reachable.cellName?_plain (by decide +kernel)
  -- The document shows the formula as it was entered.
  have stored : document.sheet.stored? "A1" = some (.formula ⟨[.reference "B1"]⟩) := by
    rw [sheet]
    exact Sheet.stored?_of_found Sheet.set_reference
  have shown : document.input "A1" = .ok "=B1" := by
    rw [Document.input, Sheet.contents_of_named named, stored]
    decide +kernel
  -- Whatever was entered instead, the shown input leads back.
  obtain ⟨old, given, -, -, back⟩ :=
    reentry_restores .plain (.empty ["work"]) [.set "A1" "=B1"] stable "A1" "A1" named
  obtain rfl : "=B1" = old := Except.ok.inj (shown.symm.trans given)
  exact ⟨stable, named, shown, back "x"⟩

end Session

end Worksheet
