import Worksheet.Proofs.Graph.Walk

/-!
The walk behind the order of recalculation keeps account of the names that it has not met, of which
there are ever fewer. A search that marks the names it meets instead, and that nothing obliges to come
to an end, takes the same steps and ends with the same answer.
-/

namespace Worksheet.Graph

/-- What a search notes of a name that it meets: that it is on the current path, and later that it has
been left for good. -/
inductive Mark
  | active
  | finished
deriving DecidableEq

/-- The marks that a search has set, and the names that it has left for good, the latest last. -/
structure Search where
  marks : NameMap Mark
  finished : List String

namespace Search

/-- Nothing has been met. -/
def empty : Search :=
  ⟨∅, []⟩

/-- Puts a name on the current path. -/
def enter (search : Search) (name : String) : Search :=
  { search with marks := search.marks.insert name .active }

/-- Leaves a name for good. -/
def leave (search : Search) (name : String) : Search :=
  ⟨search.marks.insert name .finished, search.finished ++ [name]⟩

end Search

/-- A search continues from its stack, with nothing but marks to tell which names it has met, and comes
to an end with an answer. -/
inductive Runs (g : Graph) : Search → List Frame → Except (List String) (List String) → Prop
  | done {search : Search} : Runs g search [] (.ok search.finished.reverse)
  | leave {search : Search} {name : String} {below : List Frame}
      {answer : Except (List String) (List String)}
      (rest : Runs g (search.leave name) below answer) : Runs g search (⟨name, []⟩ :: below) answer
  | close {search : Search} {name child : String} {waiting : List String} {below : List Frame}
      (open_ : search.marks[child]? = some .active) :
      Runs g search (⟨name, child :: waiting⟩ :: below)
        (.error ((name :: below.map Frame.name).reverse ++ [child]))
  | skip {search : Search} {name child : String} {waiting : List String} {below : List Frame}
      {answer : Except (List String) (List String)}
      (met : search.marks[child]? = some .finished)
      (rest : Runs g search (⟨name, waiting⟩ :: below) answer) :
      Runs g search (⟨name, child :: waiting⟩ :: below) answer
  | enter {search : Search} {name child : String} {waiting : List String} {below : List Frame}
      {answer : Except (List String) (List String)} (new : search.marks[child]? = none)
      (rest : Runs g (search.enter child) (g.frame child :: ⟨name, waiting⟩ :: below) answer) :
      Runs g search (⟨name, child :: waiting⟩ :: below) answer

/-- A search from a name, which alone is open when it begins, comes to an end with an answer. -/
def RunsFrom (g : Graph) (start : String) (answer : Except (List String) (List String)) : Prop :=
  g.Runs (Search.empty.enter start) [g.frame start] answer

variable {g : Graph} {search : Search} {unmet : NameMap NameSet} {active : NameSet}
  {finished : List String} {stack below : List Frame} {name child : String} {waiting : List String}
  {answer other : Except (List String) (List String)}

/-- A search has one answer at most. -/
theorem Runs.unique (runs : g.Runs search stack answer) (again : g.Runs search stack other) :
    other = answer := by
  -- The stack and the mark of the next name decide which step comes next.
  induction runs with
  | done =>
    cases again
    rfl
  | leave _ ih =>
    cases again with
    | leave rest => exact ih rest
  | close open_ =>
    cases again with
    -- Behind an open dependent no other step is possible.
    | close => rfl
    | skip met => simp [open_] at met
    | enter new => simp [open_] at new
  | skip met _ ih =>
    cases again with
    -- A dependent that was left is neither open nor new.
    | close open_ => simp [met] at open_
    | skip _ rest => exact ih rest
    | enter new => simp [met] at new
  | enter new _ ih =>
    cases again with
    -- A new dependent is neither open nor left.
    | close open_ => simp [new] at open_
    | skip met => simp [new] at met
    | enter _ rest => exact ih rest

/-- Whether a search has marked the names on the stack of a walk and those left for good, and no
others. -/
structure Search.Agrees (search : Search) (active : NameSet) (finished : List String) : Prop where
  active_iff : ∀ name, search.marks[name]? = some .active ↔ name ∈ active
  finished_iff : ∀ name, search.marks[name]? = some .finished ↔ name ∈ finished
  listed : search.finished = finished.reverse

namespace Search.Agrees

/-- A search agrees with a walk when both begin at the same name. -/
theorem start (start : String) : (empty.enter start).Agrees {start} [] := by
  -- The only mark is that of the start.
  refine ⟨fun name => ?_, fun name => ?_, rfl⟩
  · simp [Search.enter, empty, Std.ExtTreeMap.getElem?_insert, Std.ExtTreeSet.singleton_eq_insert,
      Std.ExtTreeSet.mem_insert]
  · simp [Search.enter, empty, Std.ExtTreeMap.getElem?_insert]

/-- A search agrees with a walk when both have met one name more. -/
theorem enter (agrees : search.Agrees active finished) (unfinished : name ∉ finished) :
    (search.enter name).Agrees (active.insert name) finished := by
  refine ⟨fun n => ?_, fun n => ?_, agrees.listed⟩
  · -- The name is the only one whose mark changes.
    by_cases same : name = n
    · simp [Search.enter, Std.ExtTreeSet.mem_insert, same]
    · simp [Search.enter, Std.ExtTreeMap.getElem?_insert, Std.ExtTreeSet.mem_insert, same,
        agrees.active_iff n]
  · -- It was not left for good before, and it is not now.
    by_cases same : name = n
    · subst same
      simp [Search.enter, unfinished]
    · simp [Search.enter, Std.ExtTreeMap.getElem?_insert, same, agrees.finished_iff n]

/-- A search agrees with a walk when both have left one name more for good. -/
theorem leave (agrees : search.Agrees active finished) :
    (search.leave name).Agrees (active.erase name) (name :: finished) := by
  refine ⟨fun n => ?_, fun n => ?_, ?_⟩
  · -- The name is on the path no longer, and every other name stays where it is.
    by_cases same : name = n
    · simp [Search.leave, Std.ExtTreeSet.mem_erase, same]
    · simp [Search.leave, Std.ExtTreeMap.getElem?_insert, Std.ExtTreeSet.mem_erase, same,
        agrees.active_iff n]
  · by_cases same : name = n
    · simp [Search.leave, same]
    · simp [Search.leave, Std.ExtTreeMap.getElem?_insert, same, Ne.symm same,
        agrees.finished_iff n]
  · -- The walk lists its latest name first, and the search lists it last.
    rw [Search.leave, agrees.listed, List.reverse_cons]

end Search.Agrees

/-- A dependent of the topmost name has the mark that the walk takes it to have. -/
theorem Walking.mark_eq
    (walking : Walking g unmet active finished (⟨name, child :: waiting⟩ :: below))
    (agrees : search.Agrees active finished) :
    search.marks[child]? =
      if active.contains child then some .active
      else if unmet.contains child then none
      else some .finished := by
  have edge : g.Edge name child := walking.queued ⟨name, child :: waiting⟩ (by simp) child (by simp)
  by_cases open_ : child ∈ active
  · -- A name on the stack is marked as such.
    rw [if_pos (Std.ExtTreeSet.mem_iff_contains.mp open_)]
    exact (agrees.active_iff child).mpr open_
  · rw [if_neg (mt Std.ExtTreeSet.mem_iff_contains.mpr open_)]
    by_cases new : child ∈ unmet
    · -- A name that has not been met is on no list, and so it has neither mark.
      rw [if_pos (Std.ExtTreeMap.mem_iff_contains.mp new)]
      have fresh := walking.unmet_new child new
      have unfinished : child ∉ finished := fun done => fresh (List.mem_append_right _ done)
      cases mark : search.marks[child]? with
      | none => rfl
      | some found =>
        cases found with
        | active => exact absurd ((agrees.active_iff child).mp mark) open_
        | finished => exact absurd ((agrees.finished_iff child).mp mark) unfinished
    · -- A dependent that is neither new nor open has been left for good.
      rw [if_neg (mt Std.ExtTreeMap.mem_iff_contains.mpr new)]
      have met := walking.covered name child edge
      have left : child ∈ finished := by
        simpa [new, open_] using met
      exact (agrees.finished_iff child).mpr left

/-- A search takes the steps of the walk that it agrees with, and ends as that does. -/
theorem Walking.runs (walking : Walking g unmet active finished stack)
    (agrees : search.Agrees active finished) :
    g.Runs search stack (g.walk unmet active finished stack) := by
  -- The walk is known to end, so that its steps can be gone through together with the invariant.
  induction unmet, active, finished, stack using walk.induct g generalizing search with
  | case1 unmet active finished =>
    -- All that was met has been left for good.
    have listed : finished = search.finished.reverse := by
      rw [agrees.listed, List.reverse_reverse]
    rw [walk, listed]
    exact .done
  | case2 unmet active finished name below ih =>
    rw [walk]
    exact .leave (ih walking.leave agrees.leave)
  | case3 unmet active finished name child waiting below open_ =>
    -- The path leads back to a name that is still on it.
    have mark := walking.mark_eq agrees
    rw [if_pos open_] at mark
    rw [walk, if_pos open_]
    exact .close mark
  | case4 unmet active finished name child waiting below inactive new ih =>
    have mark := walking.mark_eq agrees
    rw [if_neg inactive, if_pos new] at mark
    -- What has not been met cannot have been left.
    have member := Std.ExtTreeMap.mem_iff_contains.mpr new
    have unfinished : child ∉ finished := fun done =>
      walking.unmet_new child member (List.mem_append_right _ done)
    rw [walk, if_neg inactive, if_pos new]
    exact .enter mark (ih (walking.enter member) (agrees.enter unfinished))
  | case5 unmet active finished name child waiting below inactive met ih =>
    have mark := walking.mark_eq agrees
    rw [if_neg inactive, if_neg met] at mark
    have skipped := walking.skip (mt Std.ExtTreeSet.mem_iff_contains.mp inactive)
      (mt Std.ExtTreeMap.mem_iff_contains.mp met)
    rw [walk, if_neg inactive, if_neg met]
    exact .skip mark (ih skipped agrees)

/-- A search ends from every name, and its answer is that of the order of recalculation. -/
theorem Consistent.runsFrom_iff (consistent : g.Consistent) (start : String) :
    g.RunsFrom start answer ↔ answer = g.order start := by
  have runs : g.RunsFrom start (g.order start) :=
    (consistent.walking_start start).runs (Search.Agrees.start start)
  constructor
  · -- There is no other answer.
    exact fun again => runs.unique again
  · rintro rfl
    exact runs

end Worksheet.Graph
