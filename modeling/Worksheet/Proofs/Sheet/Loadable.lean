import Worksheet.Proofs.Sheet.History

/-!
Which edits of different cells an empty sheet accepts: their names, their inputs and their references
decide it, and the order in which they are entered does not matter.
-/

namespace Worksheet.Sheet

open Relation

/-- Whether some edits enter a formula with a variable under a name. -/
def Refers (naming : Naming) (script : List Edit) (v target : String) : Prop :=
  ∃ edit ∈ script, naming.normalize edit.name = target ∧
    ∃ f, Contents.ofInput naming edit.input = .ok (some (.formula f)) ∧ v ∈ f.references

/-- Whether edits have allowed cell names, inputs that can be read, and no circular references among
them. -/
structure Loadable (naming : Naming) (script : List Edit) : Prop where
  named : ∀ edit ∈ script, isCellName (naming.normalize edit.name) = true ∧
    naming.accepts (naming.normalize edit.name) = true
  read : ∀ edit ∈ script, ∃ contents, Contents.ofInput naming edit.input = .ok contents
  acyclic : ∀ name, ¬TransGen (Refers naming script) name name

/-- The names that the edits of a script stand for. -/
def targets (naming : Naming) (script : List Edit) : List String :=
  script.map fun edit => naming.normalize edit.name

variable {settings : Settings} {sheet : Sheet} {edit : Edit} {script rest other : List Edit}
  {naming : Naming}

/-- Edits are loadable in any order. -/
theorem Loadable.perm (same : script.Perm other) (loadable : Loadable naming script) :
    Loadable naming other := by
  -- All that is asked of them is about their members.
  have refers : Refers naming other = Refers naming script := by
    ext v target
    simp only [Refers, same.mem_iff]
  refine ⟨?_, ?_, by rw [refers]; exact loadable.acyclic⟩
  · exact fun edit member => loadable.named edit (same.mem_iff.mpr member)
  · exact fun edit member => loadable.read edit (same.mem_iff.mpr member)

/-- A name stands for its normalization exactly if that is a cell name and allowed. -/
theorem cellName?_eq_some_iff {name : String} :
    sheet.cellName? name = some (sheet.settings.naming.normalize name) ↔
      isCellName (sheet.settings.naming.normalize name) = true ∧
        sheet.settings.naming.accepts (sheet.settings.naming.normalize name) = true := by
  simp [cellName?]

/-- What an edit that goes through adds to the dependencies are the variables of its formula. -/
theorem edge_of_edge_set {v target : String} (consistent : sheet.graph.Consistent)
    (through : (sheet.set edit.name edit.input).1.isOk = true)
    (edge : (sheet.set edit.name edit.input).2.graph.Edge v target) :
    sheet.graph.Edge v target ∨ Refers sheet.settings.naming [edit] v target := by
  obtain ⟨contents, order, named, read, applied⟩ := applied_of_isOk consistent through
  -- A pair that is new ends in the name of the edit.
  rw [applied.graph] at edge
  rcases consistent.edge_replaceDependees.mp edge with ⟨old, -⟩ | ⟨member, rfl⟩
  · exact Or.inl old
  · obtain ⟨f, rfl, refers⟩ := mem_references_getD.mp member
    exact Or.inr ⟨edit, List.mem_singleton_self edit, rfl, f, read, refers⟩

/-- Any part of loadable edits is accepted by a sheet that has none but their references. -/
theorem Reachable.accepts (reachable : Reachable settings sheet)
    (loadable : Loadable settings.naming script) (part : ∀ edit ∈ rest, edit ∈ script)
    (within : ∀ v target, sheet.graph.Edge v target → Refers settings.naming script v target) :
    sheet.Accepts rest := by
  -- Each edit adds references of the script only, and so the sheet behind it has no others.
  induction rest generalizing sheet with
  | nil => exact accepts_nil
  | cons edit rest ih =>
    have listed := part edit List.mem_cons_self
    -- The name and the input of an edit are legal wherever it stands.
    have named : sheet.cellName? edit.name = some (settings.naming.normalize edit.name) := by
      have legal := loadable.named edit listed
      rw [← reachable.settings_eq] at legal ⊢
      exact cellName?_eq_some_iff.mpr legal
    obtain ⟨contents, read⟩ := loadable.read edit listed
    -- A formula that closed a cycle would do so among the references of the script.
    have free : ¬sheet.Closes (settings.naming.normalize edit.name) contents := by
      rintro ⟨f, rfl, v, member, reached⟩
      have way : ReflTransGen (Refers settings.naming script)
          (settings.naming.normalize edit.name) v :=
        ReflTransGen.mono within _ _ reached
      exact loadable.acyclic _ (TransGen.tail' way ⟨edit, listed, rfl, f, read, member⟩)
    have through := reachable.sound.isOk_set named (by rwa [reachable.settings_eq]) free
    -- What is left of the script is accepted by the sheet behind the edit in the same way.
    refine accepts_cons.mpr ⟨through, ih (reachable.set edit.name edit.input) ?_ ?_⟩
    · exact fun later member => part later (List.mem_cons_of_mem edit member)
    · intro v target edge
      rcases edge_of_edge_set reachable.sound.consistent through edge with old | new
      · exact within v target old
      · obtain ⟨same, member, refers⟩ := new
        obtain rfl := List.mem_singleton.mp member
        exact ⟨same, listed, reachable.settings_eq ▸ refers⟩

/-- Edits of different cells that are accepted have allowed names, and each is stored as it is read,
while all other cells keep what they hold. -/
theorem Reachable.stored?_transcript (reachable : Reachable settings sheet)
    (distinct : (targets settings.naming script).Nodup) (accepted : sheet.Accepts script) :
    (∀ edit ∈ script, isCellName (settings.naming.normalize edit.name) = true ∧
      settings.naming.accepts (settings.naming.normalize edit.name) = true ∧
      Contents.ofInput settings.naming edit.input =
        .ok ((sheet.transcript script).2.stored? (settings.naming.normalize edit.name))) ∧
    ∀ key, key ∉ targets settings.naming script →
      (sheet.transcript script).2.stored? key = sheet.stored? key := by
  -- The cell of the first edit is left alone by the others, since they are edits of other cells.
  induction script generalizing sheet with
  | nil => exact ⟨fun edit member => absurd member List.not_mem_nil, fun _ _ => rfl⟩
  | cons edit rest ih =>
    -- The first edit is applied, and what the others store is known by induction.
    obtain ⟨fresh, others⟩ := List.nodup_cons.mp distinct
    obtain ⟨through, later⟩ := accepts_cons.mp accepted
    obtain ⟨stored, kept⟩ := ih (reachable.set edit.name edit.input) others later
    obtain ⟨contents, order, named, read, applied⟩ :=
      applied_of_isOk reachable.sound.consistent through
    rw [reachable.settings_eq] at named read applied
    rw [transcript_cons]
    refine ⟨?_, ?_⟩
    · intro entered member
      rcases List.mem_cons.mp member with rfl | behind
      · -- Nothing is entered into the cell of the first edit again.
        obtain ⟨-, cellName, accepted⟩ := cellName?_eq_some named
        rw [reachable.settings_eq] at accepted
        refine ⟨cellName, accepted, ?_⟩
        rw [kept _ fresh, applied.stored?, if_pos rfl, read]
      · exact stored entered behind
    · -- A cell that no edit names is left alone by each of them.
      intro key absent
      have different : settings.naming.normalize edit.name ≠ key := by
        rintro rfl
        exact absent List.mem_cons_self
      rw [kept key fun listed => absent (List.mem_cons_of_mem _ listed), applied.stored?,
        if_neg different]

/-- Behind edits of different cells that an empty sheet accepts, the dependencies are the references
of the edits. -/
theorem edge_transcript_iff (distinct : (targets settings.naming script).Nodup)
    (accepted : (empty settings).Accepts script) (v target : String) :
    ((empty settings).transcript script).2.graph.Edge v target ↔
      Refers settings.naming script v target := by
  have blank : Reachable settings (empty settings) := .empty
  obtain ⟨stored, kept⟩ := blank.stored?_transcript distinct accepted
  rw [(blank.transcript script).sound.mirrored, referencesAt]
  constructor
  · intro member
    by_cases listed : target ∈ targets settings.naming script
    · obtain ⟨edit, entered, rfl⟩ := List.mem_map.mp listed
      obtain ⟨-, -, read⟩ := stored edit entered
      -- What has been read for the cell is a formula with the variable.
      obtain ⟨f, formula, refers⟩ := mem_references_getD.mp member
      exact ⟨edit, entered, rfl, f, formula ▸ read, refers⟩
    · -- A cell that is never edited stays empty.
      rw [kept target listed] at member
      simp [stored?, empty] at member
  · -- The formula that an edit enters is what its cell holds in the end.
    rintro ⟨edit, entered, rfl, f, formula, refers⟩
    obtain ⟨-, -, read⟩ := stored edit entered
    have same := Except.ok.inj (formula.symm.trans read)
    exact mem_references_getD.mpr ⟨f, same.symm, refers⟩

/-- An empty sheet accepts edits of different cells exactly if they are loadable. -/
theorem accepts_iff (distinct : (targets settings.naming script).Nodup) :
    (empty settings).Accepts script ↔ Loadable settings.naming script := by
  have blank : Reachable settings (empty settings) := .empty
  constructor
  · -- Behind the edits the sheet holds what each of them has entered.
    intro accepted
    obtain ⟨stored, -⟩ := blank.stored?_transcript distinct accepted
    refine ⟨?_, ?_, ?_⟩
    · intro edit member
      obtain ⟨cellName, allowed, -⟩ := stored edit member
      exact ⟨cellName, allowed⟩
    · intro edit member
      obtain ⟨-, -, read⟩ := stored edit member
      exact ⟨_, read⟩
    · -- The sheet behind the edits has no cycle, and the references are its dependencies.
      have same : Refers settings.naming script =
          ((empty settings).transcript script).2.graph.Edge := by
        ext v target
        rw [edge_transcript_iff distinct accepted]
      rw [same]
      exact (blank.transcript script).sound.acyclic
  · -- Without cells there is no dependency to begin with.
    intro loadable
    refine blank.accepts loadable (fun _ member => member) ?_
    intro v target edge
    simp [empty, Graph.Edge, Graph.empty, Graph.dependentsOf, Graph.neighbours] at edge

/-- Edits of different cells that an empty sheet accepts store the same contents in any order. -/
theorem stored?_transcript_perm (distinct : (targets settings.naming script).Nodup)
    (same : script.Perm other) (accepted : (empty settings).Accepts script)
    (otherAccepted : (empty settings).Accepts other) (key : String) :
    ((empty settings).transcript other).2.stored? key =
      ((empty settings).transcript script).2.stored? key := by
  have blank : Reachable settings (empty settings) := .empty
  have targetsSame : (targets settings.naming script).Perm (targets settings.naming other) :=
    same.map _
  obtain ⟨stored, kept⟩ := blank.stored?_transcript distinct accepted
  obtain ⟨otherStored, otherKept⟩ :=
    blank.stored?_transcript (targetsSame.nodup_iff.mp distinct) otherAccepted
  by_cases listed : key ∈ targets settings.naming script
  · -- The one edit of the cell is read alike in both orders.
    obtain ⟨edit, member, rfl⟩ := List.mem_map.mp listed
    obtain ⟨-, -, read⟩ := stored edit member
    obtain ⟨-, -, otherRead⟩ := otherStored edit (same.mem_iff.mp member)
    exact Except.ok.inj (otherRead.symm.trans read)
  · -- A cell without an edit is left empty by both.
    rw [kept key listed, otherKept key fun member => listed (targetsSame.mem_iff.mpr member)]

end Worksheet.Sheet
