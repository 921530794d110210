import Worksheet.Proofs.Sheet.Affected
import Worksheet.Proofs.Sheet.Current
import Worksheet.Proofs.Sheet.Transcript

/-!
The history of a sheet does not matter: whatever has been entered, overwritten, cleared or refused on
the way, the contents that are stored in the end determine all values and dependencies.
-/

namespace Worksheet.Sheet

variable {settings : Settings} {sheet other : Sheet} {name input : String}

/-- A sheet is its settings, cells, dependencies and whether there is anything to save. -/
theorem eq_of_parts (settings : other.settings = sheet.settings) (cells : other.cells = sheet.cells)
    (graph : other.graph = sheet.graph) (changed : other.changed = sheet.changed) :
    other = sheet := by
  -- There is nothing else in a sheet.
  cases sheet
  cases other
  simp_all

/-- The stored contents determine the dependencies. -/
theorem Sound.graph_eq (sound : sheet.Sound) (otherSound : other.Sound)
    (same : ∀ name, other.stored? name = sheet.stored? name) : other.graph = sheet.graph := by
  apply otherSound.consistent.ext sound.consistent
  intro s t
  -- Each pair is a variable of the contents stored under its second name.
  rw [otherSound.mirrored, sound.mirrored, referencesAt, referencesAt, same]

/-- The stored contents determine the values, if each value is what its contents are worth. -/
theorem Sound.cells_eq (sound : sheet.Sound) (stable : sheet.settings.naming.Stable)
    (current : sheet.CurrentBut []) (otherCurrent : other.CurrentBut [])
    (settings : other.settings = sheet.settings)
    (same : ∀ name, other.stored? name = sheet.stored? name) : other.cells = sheet.cells := by
  apply Std.ExtTreeMap.ext_getElem?
  intro name
  -- Two cells agree as soon as all those agree that they depend on.
  induction name using sound.acyclic.wellFounded.induction with
  | _ name ih =>
    have contents := same name
    cases found : sheet.cells[name]? with
    | none =>
      -- Without contents there is no cell on the other sheet either.
      simpa [stored?, found] using contents
    | some cell =>
      rw [stored?_of_found found] at contents
      obtain ⟨twin, twinFound, twinContents⟩ := Option.map_eq_some_iff.mp contents
      have value := current.value_eq found
      have twinValue := otherCurrent.value_eq twinFound
      -- The same contents are worth the same, since the cells that they refer to agree.
      have worth : other.worth cell.contents = sheet.worth cell.contents :=
        sound.worth_congr stable (stored?_of_found found) settings ih
      have values : twin.value = cell.value := by
        rw [twinValue, twinContents, worth, value]
      rw [twinFound]
      cases twin
      cases cell
      simp_all

/-- Behind a script that is accepted there is something to save if there was before or it has an
edit. -/
theorem Sound.changed_transcript {script : List Edit} (sound : sheet.Sound)
    (accepted : sheet.Accepts script) :
    (sheet.transcript script).2.changed = (sheet.changed || !script.isEmpty) := by
  -- The first edit leaves something to save already.
  induction script generalizing sheet with
  | nil => simp [transcript]
  | cons edit rest ih =>
    obtain ⟨through, later⟩ := accepts_cons.mp accepted
    obtain ⟨-, -, changed⟩ := set_of_wentThrough sound.consistent through
    rw [transcript_cons, ih (sound.set edit.name edit.input) later, changed]
    simp

/-- What two edits of different cells leave behind when none of them is refused. -/
theorem Sound.transcript_pair {first second : Edit} (sound : sheet.Sound)
    (through : ∀ entry ∈ (sheet.transcript [first, second]).1, entry.wentThrough = true) :
    (∀ key, (sheet.transcript [first, second]).2.stored? key =
      if sheet.settings.naming.normalize second.name = key then
        (Contents.ofInput sheet.settings.naming second.input).toOption.join
      else if sheet.settings.naming.normalize first.name = key then
        (Contents.ofInput sheet.settings.naming first.input).toOption.join
      else sheet.stored? key) ∧
    (sheet.transcript [first, second]).2.settings = sheet.settings ∧
    (sheet.transcript [first, second]).2.changed = true := by
  -- The second edit finds what the first one leaves behind.
  simp only [transcript, List.forall_mem_cons, Entry.wentThrough] at through ⊢
  obtain ⟨firstThrough, secondThrough, -⟩ := through
  obtain ⟨stored, settings, -⟩ := set_of_wentThrough sound.consistent firstThrough
  obtain ⟨storedLater, settingsLater, changed⟩ :=
    set_of_wentThrough (sound.set first.name first.input).consistent secondThrough
  rw [settings] at storedLater
  refine ⟨?_, settingsLater.trans settings, changed⟩
  intro key
  rw [storedLater, stored]

/-- Under a stable normalization the stored contents determine the cells and the dependencies of a
reachable sheet. -/
theorem Reachable.determined (stable : settings.naming.Stable)
    (reachable : Reachable settings sheet) (otherReachable : Reachable settings other)
    (same : ∀ name, other.stored? name = sheet.stored? name) :
    other.cells = sheet.cells ∧ other.graph = sheet.graph := by
  -- Both sheets have the settings that they began with.
  have agree : other.settings = sheet.settings :=
    otherReachable.settings_eq.trans reachable.settings_eq.symm
  have fixed : sheet.settings.naming.Stable := by
    rwa [reachable.settings_eq]
  refine ⟨?_, reachable.sound.graph_eq otherReachable.sound same⟩
  exact reachable.sound.cells_eq fixed (reachable.current stable) (otherReachable.current stable)
    agree same

/-- Two edits of different cells store the same contents in either order. -/
theorem Reachable.stored?_exchange {first second : Edit} (reachable : Reachable settings sheet)
    (different : settings.naming.normalize first.name ≠ settings.naming.normalize second.name)
    (through : ∀ entry ∈ (sheet.transcript [first, second]).1, entry.wentThrough = true)
    (exchanged : ∀ entry ∈ (sheet.transcript [second, first]).1, entry.wentThrough = true)
    (key : String) :
    (sheet.transcript [second, first]).2.stored? key =
      (sheet.transcript [first, second]).2.stored? key := by
  rw [(reachable.sound.transcript_pair through).1, (reachable.sound.transcript_pair exchanged).1,
    reachable.settings_eq]
  -- The edits write different names, so that it does not matter which of them comes last.
  split
  · rename_i isFirst
    rw [if_neg (fun isSecond => different (isFirst.trans isSecond.symm))]
  · rfl

/-- On a sheet without formulas nothing depends on another cell. -/
theorem Sound.eq_of_reach {u v : String} (sound : sheet.Sound)
    (formulaless : ∀ key f, sheet.stored? key ≠ some (.formula f))
    (path : Relation.ReflTransGen sheet.graph.Edge u v) : v = u := by
  -- Wherever an edge ends, a formula is stored.
  by_contra different
  obtain ⟨cell, f, found, formula⟩ := sound.formula_of_reach path different
  exact formulaless v f (by rw [stored?_of_found found, formula])

/-- A variable goes through on a sheet without formulas. -/
theorem isOk_set_reference (reachable : Reachable .plain sheet)
    (formulaless : ∀ key f, sheet.stored? key ≠ some (.formula f)) :
    (sheet.set "B1" "=A1").1.isOk = true := by
  have named : sheet.cellName? "B1" = some "B1" := reachable.cellName?_plain (by decide +kernel)
  have read : Contents.ofInput sheet.settings.naming "=A1" =
      .ok (some (.formula ⟨[.reference "A1"]⟩)) := by
    rw [reachable.settings_eq]
    exact ofInput_reference
  apply reachable.sound.isOk_set named read
  intro ⟨f, formula, v, refers, path⟩
  -- The one variable is not the cell itself, and nothing depends on the cell.
  cases formula
  obtain rfl := reachable.sound.eq_of_reach formulaless path
  revert refers
  decide

/-- A variable and then the text that it refers to go through. -/
theorem reference_then_text :
    ∀ entry ∈ ((Sheet.empty .plain).transcript [⟨"B1", "=A1"⟩, ⟨"A1", "x"⟩]).1,
      entry.wentThrough = true := by
  -- The variable is entered while there is no formula, and a text is never refused.
  have blank : Reachable .plain (Sheet.empty .plain) := .empty
  have formulaless : ∀ key f, (Sheet.empty .plain).stored? key ≠ some (.formula f) := by
    intro key f
    simp [stored?, Sheet.empty]
  simp only [transcript, List.forall_mem_cons, Entry.wentThrough]
  refine ⟨isOk_set_reference blank formulaless, ?_, ?_⟩
  · exact (blank.set "B1" "=A1").isOk_set_text (by decide +kernel)
  · simp

/-- A text and then a variable that refers to it go through. -/
theorem text_then_reference :
    ∀ entry ∈ ((Sheet.empty .plain).transcript [⟨"A1", "x"⟩, ⟨"B1", "=A1"⟩]).1,
      entry.wentThrough = true := by
  -- The text goes through on an empty sheet.
  have blank : Reachable .plain (Sheet.empty .plain) := .empty
  have legal : isCellName "A1" = true := by decide +kernel
  have through := blank.isOk_set_text legal
  -- Behind the text there is still no formula.
  have formulaless : ∀ key f, ((Sheet.empty .plain).set "A1" "x").2.stored? key ≠
      some (.formula f) := by
    intro key f
    have read : Contents.ofInput (Sheet.empty .plain).settings.naming "x" =
        .ok (some (.text "x")) := ofInput_text
    rw [(set_of_wentThrough blank.sound.consistent through).1 key, read]
    split
    · intro formula
      cases formula
    · simp [stored?, Sheet.empty]
  simp only [transcript, List.forall_mem_cons, Entry.wentThrough]
  refine ⟨through, isOk_set_reference (blank.set "A1" "x") formulaless, ?_⟩
  simp

/-- If names are normalized for good, any two sheets with the same stored contents have the same
cells, values included, and the same dependencies, whatever edits led to them. So two edits of
different cells may be exchanged wherever none of them is refused in either order. -/
theorem history_independent (settings : Settings) (stable : settings.naming.Stable) :
    (∀ sheet other, Reachable settings sheet → Reachable settings other →
      (∀ name, other.stored? name = sheet.stored? name) →
      other.cells = sheet.cells ∧ other.graph = sheet.graph) ∧
    ∀ sheet, Reachable settings sheet → ∀ first second : Edit,
      settings.naming.normalize first.name ≠ settings.naming.normalize second.name →
      (∀ entry ∈ (sheet.transcript [first, second]).1, entry.wentThrough = true) →
      (∀ entry ∈ (sheet.transcript [second, first]).1, entry.wentThrough = true) →
      (sheet.transcript [second, first]).2 = (sheet.transcript [first, second]).2 := by
  refine ⟨?_, ?_⟩
  · intro sheet other reachable otherReachable same
    exact reachable.determined stable otherReachable same
  · intro sheet reachable first second different through exchanged
    obtain ⟨cells, graph⟩ := (reachable.transcript [first, second]).determined stable
      (reachable.transcript [second, first])
      (reachable.stored?_exchange different through exchanged)
    -- What is left of a sheet is its settings and that there is something to save.
    obtain ⟨-, settingsKept, changed⟩ := reachable.sound.transcript_pair through
    obtain ⟨-, settingsExchanged, changedExchanged⟩ := reachable.sound.transcript_pair exchanged
    exact eq_of_parts (settingsExchanged.trans settingsKept.symm) cells graph
      (changedExchanged.trans changed.symm)

/-- A variable may be entered before or after the text that it refers to. -/
theorem history_independent_exchange :
    Settings.plain.naming.Stable ∧
      ((Sheet.empty .plain).transcript [⟨"A1", "x"⟩, ⟨"B1", "=A1"⟩]).2.cells =
        ((Sheet.empty .plain).transcript [⟨"B1", "=A1"⟩, ⟨"A1", "x"⟩]).2.cells ∧
      ((Sheet.empty .plain).transcript [⟨"A1", "x"⟩, ⟨"B1", "=A1"⟩]).2 =
        ((Sheet.empty .plain).transcript [⟨"B1", "=A1"⟩, ⟨"A1", "x"⟩]).2 := by
  -- Either history leaves the text and the variable stored.
  have stable : Settings.plain.naming.Stable := fun _ _ => rfl
  have blank : Reachable .plain (Sheet.empty .plain) := .empty
  have different : Settings.plain.naming.normalize "B1" ≠ Settings.plain.naming.normalize "A1" := by
    decide
  obtain ⟨determined, exchange⟩ := history_independent .plain stable
  have same := blank.stored?_exchange different reference_then_text text_then_reference
  exact ⟨stable,
    (determined _ _ (blank.transcript _) (blank.transcript _) same).1,
    exchange _ blank ⟨"B1", "=A1"⟩ ⟨"A1", "x"⟩ different reference_then_text text_then_reference⟩

end Worksheet.Sheet
