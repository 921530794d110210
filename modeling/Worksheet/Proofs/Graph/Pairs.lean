import Mathlib.Data.Finset.Card
import Worksheet.Graph.Basic

/-!
A graph is a set of pairs that is kept from both sides and counted, and each change to it is a
change to that set.
-/

namespace Worksheet.Graph

/-- Every key of an index has at least one name. -/
def Filled (index : NameMap NameSet) : Prop :=
  ∀ key ∈ index, neighbours index key ≠ ∅

/-- One name has another as a dependent. -/
def Edge (g : Graph) (s t : String) : Prop :=
  t ∈ g.dependentsOf s

/-- Both indices hold the same pairs, neither stores an empty set, and the pairs are counted. -/
structure Consistent (g : Graph) : Prop where
  mirrored : ∀ s t, s ∈ g.dependeesOf t ↔ g.Edge s t
  dependents_filled : Filled g.dependents
  dependees_filled : Filled g.dependees
  counted : g.size = g.pairs.toFinset.card

section Index

variable {index other : NameMap NameSet} {key name k n : String}

/-- Storing a name for a key adds it there and nowhere else. -/
theorem mem_neighbours_insertNeighbour :
    n ∈ neighbours (insertNeighbour index key name) k ↔
      n ∈ neighbours index k ∨ (k = key ∧ n = name) := by
  -- Only the entry of the key is another one, and it has grown by the name.
  by_cases same : key = k
  · subst same
    simp only [neighbours, insertNeighbour, Std.ExtTreeMap.getD_insert_self,
      Std.ExtTreeSet.mem_insert, Std.compare_eq_iff_eq, true_and]
    rw [or_comm, eq_comm]
  · simp [neighbours, insertNeighbour, Std.ExtTreeMap.getD_insert, same, Ne.symm same]

/-- Removing a name from a key takes it from there and from nowhere else. -/
theorem mem_neighbours_eraseNeighbour :
    n ∈ neighbours (eraseNeighbour index key name) k ↔
      n ∈ neighbours index k ∧ ¬(k = key ∧ n = name) := by
  -- An entry that is left empty is dropped, and a missing entry reads as an empty one.
  have reading : neighbours (eraseNeighbour index key name) k =
      if key = k then (neighbours index key).erase name else neighbours index k := by
    simp only [eraseNeighbour]
    split
    · rename_i drained
      rw [Std.ExtTreeSet.isEmpty_iff.mp drained]
      simp [neighbours, Std.ExtTreeMap.getD_erase]
    · simp [neighbours, Std.ExtTreeMap.getD_insert]
  rw [reading]
  split
  · -- At the key itself the one name is gone.
    rename_i same
    subst same
    simp only [Std.ExtTreeSet.mem_erase, ne_eq, Std.compare_eq_iff_eq, true_and]
    rw [and_comm, eq_comm]
  · -- Every other key reads as before.
    rename_i other
    simp [Ne.symm other]

/-- A key with a name is stored. -/
theorem mem_of_mem_neighbours (found : n ∈ neighbours index key) : key ∈ index := by
  -- A key that is missing reads as the empty set.
  by_contra missing
  rw [neighbours, Std.ExtTreeMap.getD_eq_fallback missing] at found
  exact Std.ExtTreeSet.not_mem_empty found

/-- Storing a name leaves no key without one. -/
theorem Filled.insertNeighbour (filled : Filled index) :
    Filled (insertNeighbour index key name) := by
  intro k stored
  -- The key now has the name, and every other key has what it had.
  by_cases same : k = key
  · have found : name ∈ neighbours (Graph.insertNeighbour index key name) k :=
      mem_neighbours_insertNeighbour.mpr (Or.inr ⟨same, rfl⟩)
    intro drained
    simp [drained] at found
  · have kept : k ∈ index := by
      simpa [Graph.insertNeighbour, Std.ExtTreeMap.mem_insert, Ne.symm same] using stored
    simpa [neighbours, Graph.insertNeighbour, Std.ExtTreeMap.getD_insert, Ne.symm same]
      using filled k kept

/-- Removing a name leaves no key without one. -/
theorem Filled.eraseNeighbour (filled : Filled index) :
    Filled (eraseNeighbour index key name) := by
  intro k stored
  -- A key that would lose its last name is removed along with it.
  simp only [Graph.eraseNeighbour] at stored ⊢
  split at stored
  · rename_i drained
    rw [if_pos drained]
    simp only [Std.ExtTreeMap.mem_erase, ne_eq, Std.compare_eq_iff_eq] at stored
    simpa [neighbours, Std.ExtTreeMap.getD_erase, stored.1] using filled k stored.2
  · -- A key that keeps some name stays with those.
    rename_i rest
    rw [if_neg rest]
    by_cases same : key = k
    · subst same
      intro none_left
      simp only [neighbours, Std.ExtTreeMap.getD_insert_self] at none_left rest
      simp [none_left] at rest
    · have kept : k ∈ index := by simpa [Std.ExtTreeMap.mem_insert, same] using stored
      simpa [neighbours, Std.ExtTreeMap.getD_insert, same] using filled k kept

/-- The entry of a key, read back from its names. -/
theorem Filled.getElem? (filled : Filled index) :
    index[k]? = if neighbours index k = ∅ then none else some (neighbours index k) := by
  -- A stored key has names, so that only a missing one reads as the empty set.
  by_cases stored : k ∈ index
  · rw [if_neg (filled k stored), neighbours]
    exact Std.ExtTreeMap.getElem?_eq_some_getD stored
  · have missing : neighbours index k = ∅ := Std.ExtTreeMap.getD_eq_fallback stored
    rw [if_pos missing, Std.ExtTreeMap.getElem?_eq_none stored]

/-- Indices without empty entries are equal as soon as they hold the same names. -/
theorem Filled.ext (filled : Filled index) (otherFilled : Filled other)
    (same : ∀ k n, n ∈ neighbours index k ↔ n ∈ neighbours other k) : index = other := by
  apply Std.ExtTreeMap.ext_getElem?
  intro k
  -- The entry of a key is determined by the names it has.
  have names : neighbours index k = neighbours other k := Std.ExtTreeSet.ext_mem (same k)
  rw [filled.getElem?, otherFilled.getElem?, names]

end Index

variable {g h : Graph} {s t u v : String}

/-- The listed pairs are those of a name and a dependent of it. -/
theorem mem_pairs : (s, t) ∈ g.pairs ↔ g.Edge s t := by
  -- A name is listed with the names of its entry, and it has an entry if it has any names.
  simp only [pairs, List.mem_flatMap, List.mem_map, Prod.mk.injEq, Prod.exists, Edge, dependentsOf]
  constructor
  · rintro ⟨key, names, entry, name, member, rfl, rfl⟩
    rw [Std.ExtTreeMap.mem_toList_iff_getElem?_eq_some] at entry
    rw [neighbours, Std.ExtTreeMap.getD_eq_getD_getElem?, entry]
    exact Std.ExtTreeSet.mem_toList.mp member
  · intro found
    have stored := mem_of_mem_neighbours found
    refine ⟨s, neighbours g.dependents s, ?_, t, Std.ExtTreeSet.mem_toList.mpr found, rfl, rfl⟩
    rw [Std.ExtTreeMap.mem_toList_iff_getElem?_eq_some, neighbours]
    exact Std.ExtTreeMap.getElem?_eq_some_getD stored

/-- A graph without pairs is consistent. -/
theorem Consistent.empty : Consistent empty := by
  -- There is nothing that the two maps could disagree about.
  have pairless : Graph.empty.pairs = [] := by
    apply List.eq_nil_iff_forall_not_mem.mpr
    rintro ⟨s, t⟩ member
    simp [mem_pairs, Graph.empty, Edge, dependentsOf, neighbours] at member
  constructor
  · simp [Graph.empty, Edge, dependentsOf, dependeesOf, neighbours]
  · simp [Graph.empty, Filled]
  · simp [Graph.empty, Filled]
  · rw [pairless]
    rfl

/-- Consistent graphs are equal as soon as they have the same pairs. -/
theorem Consistent.ext (consistent : g.Consistent) (other : h.Consistent)
    (same : ∀ s t, g.Edge s t ↔ h.Edge s t) : g = h := by
  -- Neither index nor the count holds anything beyond the pairs.
  have forward : g.dependents = h.dependents :=
    consistent.dependents_filled.ext other.dependents_filled same
  have backward : g.dependees = h.dependees := by
    apply consistent.dependees_filled.ext other.dependees_filled
    intro t s
    exact (consistent.mirrored s t).trans ((same s t).trans (other.mirrored s t).symm)
  have counts : g.size = h.size := by
    rw [consistent.counted, other.counted, pairs, pairs, forward]
  cases g
  cases h
  simp_all

/-- Adding a pair adds nothing else. -/
theorem edge_add : (g.add s t).Edge u v ↔ g.Edge u v ∨ (u = s ∧ v = t) := by
  -- A pair is added to the names stored for its first name.
  unfold add
  split
  · -- The pair was there.
    rename_i present
    constructor
    · exact Or.inl
    · rintro (edge | ⟨rfl, rfl⟩)
      · exact edge
      · exact Std.ExtTreeSet.mem_iff_contains.mpr present
  · exact mem_neighbours_insertNeighbour

/-- Removing a pair removes nothing else. -/
theorem edge_remove : (g.remove s t).Edge u v ↔ g.Edge u v ∧ ¬(u = s ∧ v = t) := by
  -- A pair is removed from the names stored for its first name.
  unfold remove
  split
  · exact mem_neighbours_eraseNeighbour
  · -- The pair was missing.
    rename_i missing
    have absent : ¬g.Edge s t := fun edge => missing (Std.ExtTreeSet.mem_iff_contains.mp edge)
    constructor
    · intro edge
      refine ⟨edge, ?_⟩
      rintro ⟨rfl, rfl⟩
      exact absent edge
    · exact And.left

/-- Removing a pair takes it from the set of all pairs. -/
theorem toFinset_pairs_remove (g : Graph) (s t : String) :
    (g.remove s t).pairs.toFinset = g.pairs.toFinset.erase (s, t) := by
  -- Every pair but the one removed stays.
  ext ⟨u, v⟩
  simp [mem_pairs, edge_remove, and_comm]

/-- Adding a pair keeps a graph consistent. -/
theorem Consistent.add (consistent : g.Consistent) : (g.add s t).Consistent := by
  unfold Graph.add
  split
  · -- A pair that is there already changes nothing.
    exact consistent
  · rename_i missing
    have absent : ¬g.Edge s t := fun edge => missing (Std.ExtTreeSet.mem_iff_contains.mp edge)
    refine ⟨?_, consistent.dependents_filled.insertNeighbour,
      consistent.dependees_filled.insertNeighbour, ?_⟩
    · -- Both maps gain the same pair.
      intro u v
      have before := consistent.mirrored u v
      simp only [Edge, dependentsOf, dependeesOf, mem_neighbours_insertNeighbour] at before ⊢
      rw [before, and_comm]
    · -- The new pair is one more in the set of all pairs.
      have grown : (g.add s t).pairs.toFinset = insert (s, t) g.pairs.toFinset := by
        ext ⟨u, v⟩
        simp [mem_pairs, edge_add, or_comm]
      rw [Graph.add, if_neg missing] at grown
      rw [grown, Finset.card_insert_of_notMem (by simpa [mem_pairs] using absent), consistent.counted]

/-- Removing a pair keeps a graph consistent. -/
theorem Consistent.remove (consistent : g.Consistent) : (g.remove s t).Consistent := by
  unfold Graph.remove
  split
  · rename_i present
    have edge : g.Edge s t := Std.ExtTreeSet.mem_iff_contains.mpr present
    refine ⟨?_, consistent.dependents_filled.eraseNeighbour,
      consistent.dependees_filled.eraseNeighbour, ?_⟩
    · -- Both maps lose the same pair.
      intro u v
      have before := consistent.mirrored u v
      simp only [Edge, dependentsOf, dependeesOf, mem_neighbours_eraseNeighbour] at before ⊢
      rw [before, and_comm (a := u = s)]
    · -- The old pair is one less in the set of all pairs.
      have shrunk := toFinset_pairs_remove g s t
      rw [Graph.remove, if_pos present] at shrunk
      rw [shrunk, Finset.card_erase_of_mem (by simpa [mem_pairs] using edge), consistent.counted]
  · -- A pair that is not there changes nothing.
    exact consistent

section Replacement

variable {names : List String} {pairs : List (String × String)}

/-- Adds some pairs one after the other. -/
def addAll (g : Graph) (pairs : List (String × String)) : Graph :=
  pairs.foldl (fun g pair => g.add pair.1 pair.2) g

/-- Removes some pairs one after the other. -/
def removeAll (g : Graph) (pairs : List (String × String)) : Graph :=
  pairs.foldl (fun g pair => g.remove pair.1 pair.2) g

/-- Adding some pairs adds nothing else. -/
theorem edge_addAll : (g.addAll pairs).Edge u v ↔ g.Edge u v ∨ (u, v) ∈ pairs := by
  -- The pairs in front are there when the others are added.
  induction pairs generalizing g with
  | nil => simp [addAll]
  | cons pair rest ih =>
    have step : g.addAll (pair :: rest) = (g.add pair.1 pair.2).addAll rest := rfl
    rw [step, ih, edge_add, List.mem_cons, Prod.ext_iff, or_assoc]

/-- Removing some pairs removes nothing else. -/
theorem edge_removeAll : (g.removeAll pairs).Edge u v ↔ g.Edge u v ∧ (u, v) ∉ pairs := by
  -- The pairs in front are gone when the others are removed.
  induction pairs generalizing g with
  | nil => simp [removeAll]
  | cons pair rest ih =>
    have step : g.removeAll (pair :: rest) = (g.remove pair.1 pair.2).removeAll rest := rfl
    rw [step, ih, edge_remove, List.mem_cons, Prod.ext_iff, not_or, and_assoc]

/-- A run of additions keeps a graph consistent. -/
theorem Consistent.addAll (consistent : g.Consistent) : (g.addAll pairs).Consistent := by
  -- One pair after the other is added to a consistent graph.
  induction pairs generalizing g with
  | nil => exact consistent
  | cons pair rest ih => exact ih consistent.add

/-- A run of removals keeps a graph consistent. -/
theorem Consistent.removeAll (consistent : g.Consistent) : (g.removeAll pairs).Consistent := by
  -- One pair after the other is removed from a consistent graph.
  induction pairs generalizing g with
  | nil => exact consistent
  | cons pair rest ih => exact ih consistent.remove

/-- What depends on a name is replaced by removing those pairs and adding the new ones. -/
theorem replaceDependents_eq (g : Graph) (s : String) (names : List String) :
    g.replaceDependents s names =
      (g.removeAll ((g.dependentsOf s).toList.map fun t => (s, t))).addAll
        (names.map fun t => (s, t)) := by
  -- A run over the names is one over the pairs made from them.
  rw [addAll, removeAll, List.foldl_map, List.foldl_map]
  rfl

/-- What a name depends on is replaced by removing those pairs and adding the new ones. -/
theorem replaceDependees_eq (g : Graph) (t : String) (names : List String) :
    g.replaceDependees t names =
      (g.removeAll ((g.dependeesOf t).toList.map fun s => (s, t))).addAll
        (names.map fun s => (s, t)) := by
  -- A run over the names is one over the pairs made from them.
  rw [addAll, removeAll, List.foldl_map, List.foldl_map]
  rfl

/-- Replacing what depends on a name keeps a graph consistent. -/
theorem Consistent.replaceDependents (consistent : g.Consistent) :
    (g.replaceDependents s names).Consistent := by
  -- It is nothing but removals and additions.
  rw [replaceDependents_eq]
  exact consistent.removeAll.addAll

/-- Replacing what a name depends on keeps a graph consistent. -/
theorem Consistent.replaceDependees (consistent : g.Consistent) :
    (g.replaceDependees t names).Consistent := by
  -- It is nothing but removals and additions.
  rw [replaceDependees_eq]
  exact consistent.removeAll.addAll

/-- Replacing what depends on a name leaves the pairs of every other name alone. -/
theorem edge_replaceDependents :
    (g.replaceDependents s names).Edge u v ↔ (g.Edge u v ∧ u ≠ s) ∨ (u = s ∧ v ∈ names) := by
  -- All the pairs that begin with the name are removed before the new ones are added.
  have listed : ∀ t, t ∈ (g.dependentsOf s).toList ↔ g.Edge s t := fun _ =>
    Std.ExtTreeSet.mem_toList
  simp only [replaceDependents_eq, edge_addAll, edge_removeAll, List.mem_map, listed,
    Prod.mk.injEq]
  grind

/-- Replacing what a name depends on leaves the pairs of every other name alone. -/
theorem Consistent.edge_replaceDependees (consistent : g.Consistent) :
    (g.replaceDependees t names).Edge u v ↔ (g.Edge u v ∧ v ≠ t) ∨ (u ∈ names ∧ v = t) := by
  -- All the pairs that end in the name are removed before the new ones are added.
  simp only [replaceDependees_eq, edge_addAll, edge_removeAll, List.mem_map,
    Std.ExtTreeSet.mem_toList, consistent.mirrored, Prod.mk.injEq]
  grind

/-- What a name depended on can be put back. -/
theorem Consistent.replaceDependees_restore (consistent : g.Consistent) :
    (g.replaceDependees t names).replaceDependees t (g.dependeesOf t).toList = g := by
  -- Only pairs that end in the name are exchanged, and those are the ones that return.
  apply consistent.replaceDependees.replaceDependees.ext consistent
  intro u v
  rw [consistent.replaceDependees.edge_replaceDependees, consistent.edge_replaceDependees,
    Std.ExtTreeSet.mem_toList, consistent.mirrored]
  grind

end Replacement

end Worksheet.Graph
