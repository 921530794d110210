import Worksheet.Proofs.Snapshot.Restore

/-!
Which snapshots can be restored: the names, the inputs and the references of the entries decide it, and
the order in which they are entered does not matter.
-/

namespace Worksheet.Snapshot

open Sheet (Edit Loadable targets)

variable {settings : Settings} {snapshot : Snapshot}

/-- The entries of a snapshot stand for the same cells in any order. -/
theorem nodup_targets_of_perm (distinct : (targets settings.naming snapshot.script).Nodup)
    {script : List Edit} (same : script.Perm snapshot.script) :
    (targets settings.naming script).Nodup :=
  (same.map _).nodup_iff.mpr distinct

/-- The entries of a snapshot are accepted in any order if they are loadable. -/
theorem accepts_perm_iff (distinct : (targets settings.naming snapshot.script).Nodup)
    {script : List Edit} (same : script.Perm snapshot.script) :
    (Sheet.empty settings).Accepts script ↔ Loadable settings.naming snapshot.script := by
  -- Being loadable does not depend on the order.
  rw [Sheet.accepts_iff (nodup_targets_of_perm distinct same)]
  exact ⟨Loadable.perm same, Loadable.perm same.symm⟩

/-- The order in which the entries of a snapshot are accepted does not show in the cells and
dependencies. -/
theorem transcript_eq_of_perm (stable : settings.naming.Stable)
    (distinct : (targets settings.naming snapshot.script).Nodup) {script other : List Edit}
    (same : script.Perm snapshot.script) (accepted : (Sheet.empty settings).Accepts script)
    (otherSame : other.Perm snapshot.script) (otherAccepted : (Sheet.empty settings).Accepts other) :
    ((Sheet.empty settings).transcript other).2.cells =
        ((Sheet.empty settings).transcript script).2.cells ∧
      ((Sheet.empty settings).transcript other).2.graph =
        ((Sheet.empty settings).transcript script).2.graph := by
  have blank : Sheet.Reachable settings (Sheet.empty settings) := .empty
  -- The stored contents decide everything, and they are the same.
  have stored := Sheet.stored?_transcript_perm (nodup_targets_of_perm distinct same)
    (same.trans otherSame.symm) accepted otherAccepted
  exact (blank.transcript script).determined stable (blank.transcript other) stored

/-- A snapshot with different names behind their normalization is restored exactly if it carries the
expected tag and its entries are loadable, that is, all names are allowed cell names, all inputs can
be read, and the variables of the formulas refer to each other without a cycle. Its entries, entered
into an empty sheet in any order, are accepted under the same condition, and if names are normalized
for good, all these orders and the restoring lead to the same cells and dependencies. -/
theorem restored_iff_loadable (settings : Settings) (snapshot : Snapshot)
    (distinct : (targets settings.naming snapshot.script).Nodup) :
    ((snapshot.restore settings).isOk = true ↔
      snapshot.version = settings.version ∧ Loadable settings.naming snapshot.script) ∧
    ∀ script : List Edit, script.Perm snapshot.script →
      ((Sheet.empty settings).Accepts script ↔ Loadable settings.naming snapshot.script) ∧
      (settings.naming.Stable → (Sheet.empty settings).Accepts script →
        (∀ other : List Edit, other.Perm snapshot.script → (Sheet.empty settings).Accepts other →
          ((Sheet.empty settings).transcript other).2.cells =
              ((Sheet.empty settings).transcript script).2.cells ∧
            ((Sheet.empty settings).transcript other).2.graph =
              ((Sheet.empty settings).transcript script).2.graph) ∧
        ∀ sheet, snapshot.restore settings = .ok sheet →
          sheet.cells = ((Sheet.empty settings).transcript script).2.cells ∧
            sheet.graph = ((Sheet.empty settings).transcript script).2.graph) := by
  refine ⟨?_, ?_⟩
  · -- A snapshot is restored if its tag is right and its entries are accepted.
    rw [← Sheet.accepts_iff distinct]
    constructor
    · intro restored
      obtain ⟨sheet, done⟩ := isOk_iff.mp restored
      obtain ⟨tagged, accepted, -⟩ := restore_eq_ok_iff.mp done
      exact ⟨tagged, accepted⟩
    · rintro ⟨tagged, accepted⟩
      rw [restore_eq_ok_iff.mpr ⟨tagged, accepted, rfl⟩]
      rfl
  · -- No order of the entries makes a difference.
    intro script same
    refine ⟨accepts_perm_iff distinct same, fun stable accepted => ⟨?_, ?_⟩⟩
    · intro other otherSame otherAccepted
      exact transcript_eq_of_perm stable distinct same accepted otherSame otherAccepted
    · -- Restoring enters the entries in the order of their names and then marks the sheet as saved.
      intro sheet restored
      obtain ⟨-, inOrder, rfl⟩ := restore_eq_ok_iff.mp restored
      exact transcript_eq_of_perm stable distinct same accepted (List.Perm.refl _) inOrder

/-- A variable and the text that it refers to are accepted in either order, and what is restored has
the same cells. -/
theorem restored_iff_loadable_orders :
    let snapshot : Snapshot := ⟨"default", .ofList [("A1", "x"), ("B1", "=A1")]⟩
    (targets Settings.plain.naming snapshot.script).Nodup ∧
      List.Perm [⟨"B1", "=A1"⟩, ⟨"A1", "x"⟩] snapshot.script ∧
      Settings.plain.naming.Stable ∧
      (Sheet.empty .plain).Accepts [⟨"B1", "=A1"⟩, ⟨"A1", "x"⟩] ∧
      Loadable Settings.plain.naming snapshot.script ∧
      ∃ sheet, snapshot.restore .plain = .ok sheet ∧
        sheet.cells =
          ((Sheet.empty .plain).transcript [⟨"B1", "=A1"⟩, ⟨"A1", "x"⟩]).2.cells := by
  intro snapshot
  -- The two entries go to different cells.
  have distinct : (targets Settings.plain.naming snapshot.script).Nodup := by decide +kernel
  have listed : snapshot.entries.toList = [("A1", "x"), ("B1", "=A1")] := by decide +kernel
  have script : snapshot.script = [⟨"A1", "x"⟩, ⟨"B1", "=A1"⟩] := by
    rw [Snapshot.script, listed]
    rfl
  have same : List.Perm [⟨"B1", "=A1"⟩, ⟨"A1", "x"⟩] snapshot.script := by
    rw [script]
    exact .swap _ _ _
  have stable : Settings.plain.naming.Stable := fun _ _ => rfl
  -- The formula comes first here, before the text that it refers to.
  have accepted : (Sheet.empty .plain).Accepts [⟨"B1", "=A1"⟩, ⟨"A1", "x"⟩] :=
    Sheet.reference_then_text
  -- One accepted order shows that the snapshot is loadable, and so it is restored.
  obtain ⟨restored, orders⟩ := restored_iff_loadable .plain snapshot distinct
  obtain ⟨loads, ends⟩ := orders _ same
  have loadable := loads.mp accepted
  obtain ⟨sheet, done⟩ := isOk_iff.mp (restored.mpr ⟨rfl, loadable⟩)
  exact ⟨distinct, same, stable, accepted, loadable, sheet, done,
    ((ends stable accepted).2 sheet done).1⟩

end Worksheet.Snapshot
