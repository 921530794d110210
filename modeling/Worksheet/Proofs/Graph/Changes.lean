import Worksheet.Proofs.Graph.Pairs

/-!
A graph is nothing but a finite set of pairs: every run of changes does to the graph what it does to
the set, and all that can be asked of the graph is answered by the set.
-/

namespace Worksheet.Graph

/-- The changes that a graph offers. -/
inductive Change
  | add (s t : String)
  | remove (s t : String)
  | replaceDependents (s : String) (names : List String)
  | replaceDependees (t : String) (names : List String)

/-- What a change does to a graph. -/
def Change.apply (g : Graph) : Change → Graph
  | add s t => g.add s t
  | remove s t => g.remove s t
  | replaceDependents s names => g.replaceDependents s names
  | replaceDependees t names => g.replaceDependees t names

/-- What a change does to a set of pairs. -/
def Change.applyTo (pairs : Finset (String × String)) : Change → Finset (String × String)
  | add s t => insert (s, t) pairs
  | remove s t => pairs.erase (s, t)
  | replaceDependents s names => {p ∈ pairs | p.1 ≠ s} ∪ (names.map fun t => (s, t)).toFinset
  | replaceDependees t names => {p ∈ pairs | p.2 ≠ t} ∪ (names.map fun s => (s, t)).toFinset

/-- The graph behind a run of changes that begins without pairs. -/
def ofChanges (changes : List Change) : Graph :=
  changes.foldl Change.apply empty

/-- The set of pairs behind a run of changes that begins without any. -/
def pairsOf (changes : List Change) : Finset (String × String) :=
  changes.foldl Change.applyTo ∅

/-- Whether a graph holds a set of pairs, in both indices and in its count, and answers every question
by it. -/
structure Represents (g : Graph) (pairs : Finset (String × String)) : Prop where
  dependents : ∀ s t, t ∈ g.dependentsOf s ↔ (s, t) ∈ pairs
  dependees : ∀ s t, s ∈ g.dependeesOf t ↔ (s, t) ∈ pairs
  dependents_filled : ∀ s ∈ g.dependents, g.dependentsOf s ≠ ∅
  dependees_filled : ∀ t ∈ g.dependees, g.dependeesOf t ≠ ∅
  size : g.size = pairs.card
  isEmpty : g.isEmpty = true ↔ pairs = ∅
  dependeeCount : ∀ t, g.dependeeCount t = {p ∈ pairs | p.2 = t}.card
  hasDependents : ∀ s, g.hasDependents s = true ↔ ∃ t, (s, t) ∈ pairs
  hasDependees : ∀ t, g.hasDependees t = true ↔ ∃ s, (s, t) ∈ pairs
  mem_pairs : ∀ p, p ∈ g.pairs ↔ p ∈ pairs
  ascending : g.pairs.Pairwise (Prod.Lex (· < ·) (· < ·))

variable {g : Graph} {pairs : Finset (String × String)} {s t : String}

/-- The pairs of a graph are listed by their first and then their second names, each of them once. -/
theorem pairwise_pairs (g : Graph) : g.pairs.Pairwise (Prod.Lex (· < ·) (· < ·)) := by
  rw [Graph.pairs, List.pairwise_flatMap]
  constructor
  · -- Pairs of one entry have the same first name and differ in the second one.
    rintro ⟨s, names⟩ -
    rw [List.pairwise_map]
    refine Std.ExtTreeSet.ordered_toList.imp fun ahead => ?_
    exact Prod.Lex.right s (compareOfLessAndEq_eq_lt.mp ahead)
  · -- Pairs of different entries differ in the first name.
    refine Std.ExtTreeMap.ordered_keys_toList.imp ?_
    intro entry later ahead p inEntry q inLater
    obtain ⟨t, -, rfl⟩ := List.mem_map.mp inEntry
    obtain ⟨v, -, rfl⟩ := List.mem_map.mp inLater
    exact Prod.Lex.left t v (compareOfLessAndEq_eq_lt.mp ahead)

/-- The names that a name depends on are as many as the pairs that end there. -/
theorem Consistent.dependeeCount_eq (consistent : g.Consistent) (t : String) :
    g.dependeeCount t = {p ∈ g.pairs.toFinset | p.2 = t}.card := by
  -- The stored names, each with that name behind it, are those pairs without repetition.
  have distinct : ((g.dependeesOf t).toList.map fun s => (s, t)).Nodup := by
    refine List.Pairwise.map _ ?_ Std.ExtTreeSet.distinct_toList
    intro a b different same
    obtain ⟨rfl, -⟩ := Prod.mk.inj same
    exact different Std.ReflCmp.compare_self
  -- The second map lists the same pairs by where they end.
  have ending : {p ∈ g.pairs.toFinset | p.2 = t} =
      ((g.dependeesOf t).toList.map fun s => (s, t)).toFinset := by
    ext ⟨u, v⟩
    simp only [Finset.mem_filter, List.mem_toFinset, Graph.mem_pairs, List.mem_map,
      Std.ExtTreeSet.mem_toList, Prod.mk.injEq, consistent.mirrored]
    constructor
    · rintro ⟨edge, rfl⟩
      exact ⟨u, edge, rfl, rfl⟩
    · rintro ⟨s, edge, rfl, rfl⟩
      exact ⟨edge, rfl⟩
  rw [ending, List.toFinset_card_of_nodup distinct, List.length_map, Std.ExtTreeSet.length_toList]
  rfl

/-- A name is a key of an index exactly if the index has names for it. -/
theorem Filled.mem_iff {index : NameMap NameSet} {key : String} (filled : Filled index) :
    key ∈ index ↔ ∃ name, name ∈ neighbours index key := by
  constructor
  · intro stored
    -- A set that is not empty has a name.
    by_contra none
    exact filled key stored (Std.ExtTreeSet.ext_mem fun name => by simp [not_exists.mp none name])
  · rintro ⟨name, found⟩
    exact mem_of_mem_neighbours found

/-- A consistent graph holds the set of its pairs. -/
theorem Consistent.represents (consistent : g.Consistent)
    (same : ∀ s t, g.Edge s t ↔ (s, t) ∈ pairs) : g.Represents pairs := by
  -- The pairs that the graph lists are those of its first index.
  have listed : g.pairs.toFinset = pairs := by
    ext ⟨s, t⟩
    rw [List.mem_toFinset, Graph.mem_pairs, same]
  -- The second index has the same pairs the other way round.
  have mirrored : ∀ s t, s ∈ g.dependeesOf t ↔ (s, t) ∈ pairs := fun s t =>
    (consistent.mirrored s t).trans (same s t)
  -- The counter is the number of listed pairs.
  have size : g.size = pairs.card := by rw [consistent.counted, listed]
  exact {
    dependents := same
    dependees := mirrored
    dependents_filled := consistent.dependents_filled
    dependees_filled := consistent.dependees_filled
    size := size
    isEmpty := by rw [Graph.isEmpty, beq_iff_eq, size, Finset.card_eq_zero]
    dependeeCount := fun t => by rw [consistent.dependeeCount_eq, listed]
    hasDependents := fun s => by
      rw [Graph.hasDependents, Std.ExtTreeMap.contains_iff_mem, consistent.dependents_filled.mem_iff]
      exact exists_congr (same s)
    hasDependees := fun t => by
      rw [Graph.hasDependees, Std.ExtTreeMap.contains_iff_mem, consistent.dependees_filled.mem_iff]
      exact exists_congr fun s => mirrored s t
    mem_pairs := fun p => by rw [← listed, List.mem_toFinset]
    ascending := pairwise_pairs g }

/-- A change keeps a graph consistent. -/
theorem Consistent.apply (consistent : g.Consistent) (change : Change) :
    (change.apply g).Consistent := by
  -- Each of the four changes keeps what makes a graph consistent.
  cases change with
  | add s t => exact consistent.add
  | remove s t => exact consistent.remove
  | replaceDependents s names => exact consistent.replaceDependents
  | replaceDependees t names => exact consistent.replaceDependees

/-- A change does to the pairs of a graph what it does to a set of pairs. -/
theorem Consistent.edge_apply (consistent : g.Consistent) (change : Change)
    (same : ∀ s t, g.Edge s t ↔ (s, t) ∈ pairs) :
    (change.apply g).Edge s t ↔ (s, t) ∈ change.applyTo pairs := by
  -- What a change does to the edges is what it does to the set of pairs.
  cases change with
  | add u v => simp [Change.apply, Change.applyTo, edge_add, same, or_comm]
  | remove u v => simp [Change.apply, Change.applyTo, edge_remove, same, and_comm]
  | replaceDependents u names =>
    simp only [Change.apply, Change.applyTo, edge_replaceDependents, same, Finset.mem_union,
      Finset.mem_filter, List.mem_toFinset, List.mem_map, Prod.mk.injEq]
    grind
  | replaceDependees v names =>
    simp only [Change.apply, Change.applyTo, consistent.edge_replaceDependees, same,
      Finset.mem_union, Finset.mem_filter, List.mem_toFinset, List.mem_map, Prod.mk.injEq]
    grind

/-- A run of changes leads from a graph with a set of pairs to one with the set behind that run. -/
theorem Consistent.foldl_apply (consistent : g.Consistent)
    (same : ∀ s t, g.Edge s t ↔ (s, t) ∈ pairs) (changes : List Change) :
    (changes.foldl Change.apply g).Consistent ∧
      ∀ s t, (changes.foldl Change.apply g).Edge s t ↔
        (s, t) ∈ changes.foldl Change.applyTo pairs := by
  -- The others start from where the first change leads to.
  induction changes generalizing g pairs with
  | nil => exact ⟨consistent, same⟩
  | cons change rest ih =>
    exact ih (consistent.apply change) fun s t => consistent.edge_apply change same

/-- A run of changes that begins without pairs leads to a consistent graph with the pairs behind it. -/
theorem consistent_ofChanges (changes : List Change) :
    (ofChanges changes).Consistent ∧
      ∀ s t, (ofChanges changes).Edge s t ↔ (s, t) ∈ pairsOf changes := by
  -- No pair is there before the first change.
  refine Consistent.empty.foldl_apply (fun s t => ?_) changes
  simp [Edge, Graph.empty, dependentsOf, neighbours]

/-- Removing a pair that is there leaves one less to count. -/
theorem Consistent.size_remove (consistent : g.Consistent) (edge : g.Edge s t) :
    (g.remove s t).size + 1 = g.size := by
  -- The count is that of the set of pairs, which has the removed one.
  have member : (s, t) ∈ g.pairs.toFinset := List.mem_toFinset.mpr (Graph.mem_pairs.mpr edge)
  rw [consistent.remove.counted, toFinset_pairs_remove, consistent.counted,
    Finset.card_erase_add_one member]

/-- Removing some pairs and then adding others, one after the other, is a run of changes. -/
theorem ofChanges_append_map (changes : List Change) (old new : List (String × String)) :
    ofChanges (changes ++ old.map (fun p => .remove p.1 p.2) ++ new.map fun p => .add p.1 p.2) =
      ((ofChanges changes).removeAll old).addAll new := by
  -- A run over a list of pairs is a run over the changes made from it.
  rw [ofChanges, List.foldl_append, List.foldl_append, List.foldl_map, List.foldl_map]
  rfl

/-- What depends on a name is replaced by removals and additions of single pairs. -/
theorem ofChanges_replaceDependents (changes : List Change) (s : String) (names : List String) :
    ofChanges (changes ++ [.replaceDependents s names]) =
      ofChanges (changes ++ ((ofChanges changes).dependentsOf s).toList.map (.remove s ·) ++
        names.map (.add s ·)) := by
  -- The pairs that go and those that come all begin with the one name.
  have run := ofChanges_append_map changes
    (((ofChanges changes).dependentsOf s).toList.map fun t => (s, t)) (names.map fun t => (s, t))
  rw [← replaceDependents_eq, List.map_map, List.map_map] at run
  rw [ofChanges, List.foldl_append]
  exact run.symm

/-- What a name depends on is replaced by removals and additions of single pairs. -/
theorem ofChanges_replaceDependees (changes : List Change) (t : String) (names : List String) :
    ofChanges (changes ++ [.replaceDependees t names]) =
      ofChanges (changes ++ ((ofChanges changes).dependeesOf t).toList.map (.remove · t) ++
        names.map (.add · t)) := by
  -- The pairs that go and those that come all end in the one name.
  have run := ofChanges_append_map changes
    (((ofChanges changes).dependeesOf t).toList.map fun s => (s, t)) (names.map fun s => (s, t))
  rw [← replaceDependees_eq, List.map_map, List.map_map] at run
  rw [ofChanges, List.foldl_append]
  exact run.symm

/-- Runs of changes lead to the same graph exactly if they lead to the same set of pairs. -/
theorem ofChanges_eq_iff (changes others : List Change) :
    ofChanges changes = ofChanges others ↔ pairsOf changes = pairsOf others := by
  obtain ⟨consistent, edges⟩ := consistent_ofChanges changes
  obtain ⟨otherConsistent, otherEdges⟩ := consistent_ofChanges others
  constructor
  · -- The pairs are those of the graph.
    intro same
    ext ⟨s, t⟩
    rw [← edges, ← otherEdges, same]
  · -- A graph holds nothing beyond its pairs.
    intro same
    apply consistent.ext otherConsistent
    intro s t
    rw [edges, otherEdges, same]

/-- Every run of changes leads to a graph that holds the set of pairs behind the run and nothing else,
so that two such graphs are equal exactly if their sets are. The count is only lowered for a pair that
it has counted, also within a replacement, which is a run of removals and additions itself. -/
theorem represents_ofChanges :
    (∀ changes, (ofChanges changes).Represents (pairsOf changes)) ∧
    (∀ changes s t, (s, t) ∈ pairsOf changes →
      (ofChanges (changes ++ [.remove s t])).size + 1 = (ofChanges changes).size) ∧
    (∀ changes s names, ofChanges (changes ++ [.replaceDependents s names]) =
      ofChanges (changes ++ ((ofChanges changes).dependentsOf s).toList.map (.remove s ·) ++
        names.map (.add s ·))) ∧
    (∀ changes t names, ofChanges (changes ++ [.replaceDependees t names]) =
      ofChanges (changes ++ ((ofChanges changes).dependeesOf t).toList.map (.remove · t) ++
        names.map (.add · t))) ∧
    ∀ changes others,
      ofChanges changes = ofChanges others ↔ pairsOf changes = pairsOf others := by
  refine ⟨?_, ?_, ofChanges_replaceDependents, ofChanges_replaceDependees, ofChanges_eq_iff⟩
  · -- A consistent graph answers every query as its set of pairs does.
    intro changes
    obtain ⟨consistent, edges⟩ := consistent_ofChanges changes
    exact consistent.represents edges
  · -- Removing a pair that is there takes exactly one away.
    intro changes s t member
    obtain ⟨consistent, edges⟩ := consistent_ofChanges changes
    rw [ofChanges, List.foldl_append]
    exact consistent.size_remove ((edges s t).mpr member)

/-- A name that is made to depend on itself, with one name more and that twice, has both pairs counted
once, and one of them less when it is removed. -/
theorem represents_ofChanges_overlap :
    let changes : List Change := [.add "a" "b", .replaceDependees "b" ["b", "a", "b"]]
    ("b", "b") ∈ pairsOf changes ∧ (ofChanges changes).size = 2 ∧
      (ofChanges (changes ++ [.remove "b" "b"])).size + 1 = (ofChanges changes).size := by
  intro changes
  -- The name is replaced by itself among others, and what is repeated counts once.
  obtain ⟨represents, counted, -⟩ := represents_ofChanges
  have member : ("b", "b") ∈ pairsOf changes := by decide
  have size : (ofChanges changes).size = 2 := (represents changes).size.trans (by decide)
  exact ⟨member, size, counted changes "b" "b" member⟩

end Worksheet.Graph
