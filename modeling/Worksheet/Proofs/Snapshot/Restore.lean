import Worksheet.Proofs.Sheet.Loadable
import Worksheet.Proofs.Snapshot.Entries

/-!
A sheet is restored from its snapshot: the entries are edits that an empty sheet accepts, whatever order
their names are in, and they store what was stored.
-/

namespace Worksheet

open Relation

namespace Sheet

variable {sheet : Sheet}

/-- Entering an input succeeds if it is an edit that goes through, and gives the sheet behind it. -/
theorem enter_eq_ok_iff {next : Sheet} {entry : String × String} :
    Snapshot.enter sheet entry = .ok next ↔
      (sheet.set entry.1 entry.2).1.isOk = true ∧ next = (sheet.set entry.1 entry.2).2 := by
  -- An entry is one edit, and goes through if the edit does.
  unfold Snapshot.enter
  dsimp only
  cases sheet.set entry.1 entry.2 with
  | mk verdict after =>
    cases verdict with
    | error error => simp [Except.isOk, Except.toBool]
    | ok order => simp [Except.isOk, Except.toBool, eq_comm]

/-- Entering inputs one after the other succeeds if they are accepted as edits. -/
theorem foldlM_enter_eq_ok_iff {last : Sheet} {entries : List (String × String)} :
    entries.foldlM Snapshot.enter sheet = .ok last ↔
      sheet.Accepts (entries.map fun entry => ⟨entry.1, entry.2⟩) ∧
        last = (sheet.transcript (entries.map fun entry => ⟨entry.1, entry.2⟩)).2 := by
  -- The others are entered into the sheet behind the first edit.
  induction entries generalizing sheet with
  | nil =>
    have nothing : sheet.Accepts [] := accepts_nil
    simp [nothing, transcript, Pure.pure, Except.pure, eq_comm]
  | cons entry rest ih =>
    rw [List.foldlM_cons, bind_eq_ok, List.map_cons, accepts_cons, transcript_cons]
    simp only [enter_eq_ok_iff, ih]
    constructor
    · rintro ⟨between, ⟨through, rfl⟩, accepted, same⟩
      exact ⟨⟨through, accepted⟩, same⟩
    · rintro ⟨⟨through, accepted⟩, same⟩
      exact ⟨_, ⟨through, rfl⟩, accepted, same⟩

end Sheet

namespace Snapshot

/-- The entries of a snapshot as edits, in the order of their names. -/
def script (snapshot : Snapshot) : List Sheet.Edit :=
  snapshot.entries.toList.map fun entry => ⟨entry.1, entry.2⟩

/-- A snapshot is restored if its tag is the expected one and its entries are accepted as edits, to the
saved sheet behind them. -/
theorem restore_eq_ok_iff {settings : Settings} {snapshot : Snapshot} {sheet : Sheet} :
    snapshot.restore settings = .ok sheet ↔
      snapshot.version = settings.version ∧ (Sheet.empty settings).Accepts snapshot.script ∧
        sheet = ((Sheet.empty settings).transcript snapshot.script).2.markSaved := by
  -- All entries are entered exactly if the script is accepted.
  have entered : ∀ last, enterAll settings snapshot.entries.toList = .ok last ↔
      (Sheet.empty settings).Accepts snapshot.script ∧
        last = ((Sheet.empty settings).transcript snapshot.script).2 :=
    fun last => Sheet.foldlM_enter_eq_ok_iff
  unfold restore
  split
  · -- With the right tag it is the entries that decide.
    rename_i tagged
    simp only [map_eq_ok, entered, tagged, true_and]
    constructor
    · rintro ⟨last, ⟨accepted, rfl⟩, rfl⟩
      exact ⟨accepted, rfl⟩
    · rintro ⟨accepted, rfl⟩
      exact ⟨_, ⟨accepted, rfl⟩, rfl⟩
  · -- Another tag is refused.
    rename_i tagged
    simp [tagged]

/-- A sheet that has just been restored has nothing left to save. -/
theorem changed_of_restore {settings : Settings} {snapshot : Snapshot} {sheet : Sheet}
    (restored : snapshot.restore settings = .ok sheet) : sheet.changed = false := by
  -- A sheet that is restored is marked as saved.
  obtain ⟨-, -, rfl⟩ := restore_eq_ok_iff.mp restored
  rfl

end Snapshot

namespace Sheet

variable {settings : Settings} {sheet : Sheet} {name : String} {contents : Contents}

/-- Whatever is restored is reached by edits from a sheet without cells. -/
theorem reachable_of_restore {snapshot : Snapshot}
    (restored : snapshot.restore settings = .ok sheet) : Reachable settings sheet := by
  -- Marking the sheet behind the edits as saved is no edit.
  obtain ⟨-, -, rfl⟩ := Snapshot.restore_eq_ok_iff.mp restored
  exact .markSaved (Reachable.empty.transcript _)

/-- If names are normalized for good, the edits of a snapshot enter what is stored on the sheet. -/
theorem Reachable.mem_script_iff (reachable : Reachable settings sheet)
    (stable : settings.naming.Stable) {input : String} :
    ⟨name, input⟩ ∈ sheet.snapshot.script ↔
      ∃ contents, sheet.stored? name = some contents ∧ contents.input = input := by
  -- The script is the list of the entries, and an entry is stored contents shown as an input.
  rw [← Option.map_eq_some_iff, ← reachable.getElem?_snapshot stable,
    ← Std.ExtTreeMap.mem_toList_iff_getElem?_eq_some, Snapshot.script, List.mem_map]
  constructor
  · rintro ⟨entry, member, same⟩
    cases same
    exact member
  · exact fun member => ⟨(name, input), member, rfl⟩

/-- If names are normalized for good, the name of a stored cell is normalized. -/
theorem Reachable.normalize_of_stored? (reachable : Reachable settings sheet)
    (stable : settings.naming.Stable) (holds : sheet.stored? name = some contents) :
    settings.naming.normalize name = name := by
  -- A name that contents are stored under stands for itself.
  have named := reachable.cellName?_of_stored? stable holds
  rw [← reachable.settings_eq, ← (cellName?_eq_some named).1]

/-- The edits of a snapshot stand for the names of its entries. -/
theorem Reachable.targets_script (reachable : Reachable settings sheet)
    (stable : settings.naming.Stable) :
    targets settings.naming sheet.snapshot.script = sheet.snapshot.entries.keys := by
  -- The edits go to the names of the entries, which are normalized already.
  rw [targets, Snapshot.script, List.map_map, ← Std.ExtTreeMap.map_fst_toList_eq_keys]
  apply List.map_congr_left
  intro entry member
  have listed : ⟨entry.1, entry.2⟩ ∈ sheet.snapshot.script := List.mem_map.mpr ⟨entry, member, rfl⟩
  obtain ⟨contents, holds, -⟩ := (reachable.mem_script_iff stable).mp listed
  exact reachable.normalize_of_stored? stable holds

/-- The edits of a snapshot are edits of different cells. -/
theorem Reachable.nodup_targets_script (reachable : Reachable settings sheet)
    (stable : settings.naming.Stable) :
    (targets settings.naming sheet.snapshot.script).Nodup := by
  -- A map has no key twice.
  rw [reachable.targets_script stable]
  refine Std.ExtTreeMap.distinct_keys.imp ?_
  rintro name other different rfl
  exact different Std.ReflCmp.compare_self

/-- The edits of a snapshot are read as what is stored. -/
theorem Reachable.read_script {edit : Edit} (reachable : Reachable settings sheet)
    (stable : settings.naming.Stable) (member : edit ∈ sheet.snapshot.script) :
    ∃ contents, sheet.stored? edit.name = some contents ∧
      Contents.ofInput settings.naming edit.input = .ok (some contents) := by
  obtain ⟨contents, holds, input⟩ := (reachable.mem_script_iff stable).mp member
  -- The contents were read from an input once, and so they are read from their own one again.
  obtain ⟨-, entered, -, first⟩ := reachable.exists_entered holds
  exact ⟨contents, holds, input ▸ Contents.ofInput_input stable first⟩

/-- The edits of a snapshot are loadable, since they refer to each other as the stored formulas do. -/
theorem Reachable.loadable_script (reachable : Reachable settings sheet)
    (stable : settings.naming.Stable) : Loadable settings.naming sheet.snapshot.script := by
  refine ⟨fun edit member => ?_, fun edit member => ?_, ?_⟩
  · -- Each entry has the name of a stored cell.
    obtain ⟨contents, holds, -⟩ := reachable.read_script stable member
    have named := reachable.cellName?_of_stored? stable holds
    rw [← reachable.settings_eq, ← cellName?_eq_some_iff, ← (cellName?_eq_some named).1]
    exact named
  · -- Its input is read as what is stored.
    obtain ⟨contents, -, read⟩ := reachable.read_script stable member
    exact ⟨_, read⟩
  · -- A circle of references would be one of dependencies.
    have edges : ∀ v target, Refers settings.naming sheet.snapshot.script v target →
        sheet.graph.Edge v target := by
      rintro v target ⟨edit, member, rfl, f, formula, refers⟩
      obtain ⟨contents, holds, read⟩ := reachable.read_script stable member
      cases formula.symm.trans read
      rw [reachable.normalize_of_stored? stable holds]
      exact reachable.sound.edge_of_mem_references holds refers
    exact fun name circle => reachable.sound.acyclic name (TransGen.mono edges _ _ circle)

/-- The edits of a snapshot, entered into an empty sheet, store what is stored on the sheet. -/
theorem Reachable.stored?_script (reachable : Reachable settings sheet)
    (stable : settings.naming.Stable) (key : String) :
    ((Sheet.empty settings).transcript sheet.snapshot.script).2.stored? key =
      sheet.stored? key := by
  have blank : Reachable settings (Sheet.empty settings) := .empty
  have distinct := reachable.nodup_targets_script stable
  obtain ⟨stored, kept⟩ := blank.stored?_transcript distinct
    ((accepts_iff distinct).mpr (reachable.loadable_script stable))
  by_cases listed : key ∈ targets settings.naming sheet.snapshot.script
  · -- The edit of the cell is read as what is stored there.
    obtain ⟨edit, member, rfl⟩ := List.mem_map.mp listed
    obtain ⟨contents, holds, read⟩ := reachable.read_script stable member
    obtain ⟨-, -, entered⟩ := stored edit member
    rw [← Except.ok.inj (read.symm.trans entered), reachable.normalize_of_stored? stable holds, holds]
  · -- Whatever is stored has an edit, so that nothing is stored where there is none.
    rw [kept key listed]
    cases holds : sheet.stored? key with
    | none => simp [stored?, Sheet.empty]
    | some contents =>
      have member := (reachable.mem_script_iff stable).mpr ⟨contents, holds, rfl⟩
      exact absurd (List.mem_map.mpr ⟨_, member, reachable.normalize_of_stored? stable holds⟩) listed

/-- A sheet is restored from its snapshot as it would be once it had been saved. -/
theorem Reachable.restore_snapshot (reachable : Reachable settings sheet)
    (stable : settings.naming.Stable) :
    sheet.snapshot.restore settings = .ok sheet.markSaved := by
  have accepted := (accepts_iff (reachable.nodup_targets_script stable)).mpr
    (reachable.loadable_script stable)
  -- What is stored decides the values and the dependencies, however it came to be stored.
  have blank : Reachable settings (Sheet.empty settings) := .empty
  have reached := blank.transcript sheet.snapshot.script
  obtain ⟨cells, graph⟩ := reachable.determined stable reached (reachable.stored?_script stable)
  have saved : ((Sheet.empty settings).transcript sheet.snapshot.script).2.markSaved =
      sheet.markSaved :=
    eq_of_parts (reached.settings_eq.trans reachable.settings_eq.symm) cells graph rfl
  exact Snapshot.restore_eq_ok_iff.mpr ⟨reachable.version_snapshot, accepted, saved.symm⟩

/-- Every sheet is restored from its snapshot if its normalization is stable: the snapshot has the
input of each stored cell, and entering them gives the same cells and dependencies, all saved. -/
theorem restored_from_snapshot (settings : Settings) (sheet : Sheet)
    (stable : settings.naming.Stable) (reachable : Reachable settings sheet) :
    sheet.snapshot.version = settings.version ∧
    (∀ name : String, sheet.snapshot.entries[name]? =
      sheet.cells[name]?.map fun cell => cell.contents.input) ∧
    ∃ restored, sheet.snapshot.restore settings = .ok restored ∧
      restored.names = sheet.names ∧ restored.cells = sheet.cells ∧ restored.graph = sheet.graph ∧
      restored.settings = settings ∧ restored.changed = false := by
  -- The snapshot leads back to the same sheet, with nothing left to save.
  refine ⟨reachable.version_snapshot, fun name => ?_, ?_⟩
  · rw [reachable.getElem?_snapshot stable, stored?, Option.map_map]
    rfl
  · exact ⟨sheet.markSaved, reachable.restore_snapshot stable, rfl, rfl, rfl, reachable.settings_eq,
      rfl⟩

/-- A sheet whose only formula comes before the cell that it refers to is restored. -/
theorem restored_from_snapshot_reference :
    let sheet := (((Sheet.empty .plain).set "B1" "1e300").2.set "A1" "=B1").2
    Settings.plain.naming.Stable ∧ Reachable .plain sheet ∧
      ∃ restored, sheet.snapshot.restore .plain = .ok restored ∧ restored.cells = sheet.cells ∧
        restored.graph = sheet.graph := by
  intro sheet
  -- The names of the entries put the variable before its cell.
  have stable : Settings.plain.naming.Stable := fun _ _ => rfl
  have reachable : Reachable .plain sheet := .set "A1" "=B1" (.set "B1" "1e300" .empty)
  obtain ⟨-, -, restored, same, -, cells, graph, -⟩ :=
    restored_from_snapshot .plain sheet stable reachable
  exact ⟨stable, reachable, restored, same, cells, graph⟩

end Sheet

end Worksheet
