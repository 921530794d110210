import Mathlib.Data.List.Chain
import Worksheet.Proofs.Graph.Walk

/-!
Where a walk along dependents leads: the names that are open at a time form a path from its start, so
that an order lists exactly the names within reach, the start first, and a refusal shows a path that
runs into itself.
-/

namespace Worksheet.Graph

open Relation

variable {g : Graph} {unmet : NameMap NameSet} {active : NameSet} {finished order : List String}
  {stack below : List Frame} {start name child last u v : String} {waiting way : List String}

/-- A path of distinct names along dependents from a start, and a name on it that it leads back to. -/
structure Loop (g : Graph) (start : String) (way : List String) (last : String) : Prop where
  starts : way.head? = some start
  distinct : way.Nodup
  closes : last ∈ way
  linked : (way ++ [last]).IsChain g.Edge

/-- A loop goes round a circle of distinct names from the first occurrence of the name that it leads
back to. -/
theorem Loop.exists_circle (loop : Loop g start way last) :
    ∃ before inner, way = before ++ last :: inner ∧ last ∉ before ∧ (last :: inner).Nodup ∧
      (last :: inner ++ [last]).IsChain g.Edge := by
  -- What stands before the first occurrence is cut off.
  obtain ⟨before, inner, rfl, first⟩ := List.eq_append_cons_of_mem loop.closes
  have distinct : (last :: inner).Nodup := loop.distinct.of_append_right
  have linked : (last :: inner ++ [last]).IsChain g.Edge :=
    loop.linked.suffix ⟨before, (List.append_assoc before (last :: inner) [last]).symm⟩
  exact ⟨before, inner, rfl, first, distinct, linked⟩

/-- The open names of a walk lead from its start to the top of its stack, and no other name is left
for good than those within reach. -/
structure Rooted (g : Graph) (start : String) (finished : List String) (stack : List Frame) :
    Prop where
  linked : (stack.map Frame.name).IsChain fun upper lower => g.Edge lower upper
  bottom : ∀ name ∈ (stack.map Frame.name).getLast?, name = start
  reached : ∀ name ∈ stack.map Frame.name ++ finished, ReflTransGen g.Edge start name

/-- What a walk may answer: an order of names within reach or a path that runs into itself. -/
def Answers (g : Graph) (start : String) : Except (List String) (List String) → Prop
  | .ok order => ∀ name ∈ order, ReflTransGen g.Edge start name
  | .error path => ∃ way last, path = way ++ [last] ∧ Loop g start way last

/-- A walk is rooted at its start when it begins. -/
theorem Rooted.frame (g : Graph) (start : String) : Rooted g start [] [g.frame start] := by
  -- Nothing but the start is open.
  refine ⟨by simp, by simp [Graph.frame], ?_⟩
  intro name member
  obtain rfl : name = start := by simpa [Graph.frame] using member
  exact .refl

/-- A walk stays rooted when the name on top is left for good. -/
theorem Rooted.leave (rooted : Rooted g start finished (⟨name, []⟩ :: below)) :
    Rooted g start (name :: finished) below := by
  refine ⟨rooted.linked.tail, ?_, ?_⟩
  · -- The bottom of what remains was the bottom before.
    intro bottom found
    apply rooted.bottom bottom
    cases below with
    | nil => simp at found
    | cons frame lower => simpa using found
  · -- The name that leaves the stack joins those left before it.
    intro n member
    exact rooted.reached n (by simpa [or_left_comm] using member)

/-- A walk stays rooted when a name stops waiting. -/
theorem Rooted.skip (rooted : Rooted g start finished (⟨name, child :: waiting⟩ :: below)) :
    Rooted g start finished (⟨name, waiting⟩ :: below) :=
  -- The names of the frames are the same.
  ⟨rooted.linked, rooted.bottom, rooted.reached⟩

/-- A walk stays rooted when a dependent of the name on top is opened. -/
theorem Rooted.enter (rooted : Rooted g start finished (⟨name, child :: waiting⟩ :: below))
    (edge : g.Edge name child) :
    Rooted g start finished (g.frame child :: ⟨name, waiting⟩ :: below) := by
  refine ⟨rooted.linked.cons_cons edge, ?_, ?_⟩
  · -- The bottom lies below the name on top.
    intro bottom found
    exact rooted.bottom bottom (by simpa using found)
  · intro n member
    -- The new name is one step further than the name on top was.
    rcases List.mem_cons.mp member with rfl | before
    · exact (rooted.reached name (by simp)).tail edge
    · exact rooted.reached n before

/-- The open names and a dependent of the topmost one that is open itself form a loop. -/
theorem Rooted.loop (rooted : Rooted g start finished (⟨name, waiting⟩ :: below))
    (distinct : ((name :: below.map Frame.name) ++ finished).Nodup) (edge : g.Edge name child)
    (open_ : child ∈ name :: below.map Frame.name) :
    Loop g start (name :: below.map Frame.name).reverse child := by
  refine ⟨?_, ?_, List.mem_reverse.mpr open_, ?_⟩
  · -- The bottom of the stack is where the path starts.
    rw [List.head?_reverse, List.getLast?_cons, Option.some.injEq]
    exact rooted.bottom _ (by rw [List.map_cons, List.getLast?_cons, Option.mem_some_iff])
  · exact List.nodup_reverse.mpr distinct.of_append_left
  · -- Read from the bottom, each open name depends on the one before it.
    rw [List.isChain_append]
    refine ⟨List.isChain_reverse.mpr rooted.linked, by simp, ?_⟩
    simpa using edge

/-- A rooted walk answers with names within reach or with a loop. -/
theorem Walking.answers (walking : Walking g unmet active finished stack)
    (rooted : Rooted g start finished stack) :
    Answers g start (g.walk unmet active finished stack) := by
  -- Both invariants are carried along the steps of the walk, the one to know what is open.
  induction unmet, active, finished, stack using walk.induct g with
  | case1 unmet active finished =>
    rw [walk]
    -- The walk is over, and all that is finished was reached.
    exact fun name member => rooted.reached name (by simpa using member)
  | case2 unmet active finished name below ih =>
    rw [walk]
    exact ih walking.leave rooted.leave
  | case3 unmet active finished name child waiting below open_ =>
    rw [walk, if_pos open_]
    have edge := walking.queued ⟨name, child :: waiting⟩ (by simp) child (by simp)
    -- The dependent is open, and so the way down the stack leads back to it.
    have stacked := (walking.active_iff child).mp (Std.ExtTreeSet.mem_iff_contains.mpr open_)
    exact ⟨_, child, rfl, rooted.loop walking.distinct edge stacked⟩
  | case4 unmet active finished name child waiting below inactive new ih =>
    rw [walk, if_neg inactive, if_pos new]
    have edge := walking.queued ⟨name, child :: waiting⟩ (by simp) child (by simp)
    exact ih (walking.enter (Std.ExtTreeMap.mem_iff_contains.mpr new)) (rooted.enter edge)
  | case5 unmet active finished name child waiting below inactive met ih =>
    rw [walk, if_neg inactive, if_neg met]
    -- A dependent that has been left is skipped.
    have skipped := walking.skip (fun open_ => inactive (Std.ExtTreeSet.mem_iff_contains.mp open_))
      (fun new => met (Std.ExtTreeMap.mem_iff_contains.mp new))
    exact ih skipped rooted.skip

/-- An order of recalculation has names within reach, and a refusal shows a loop. -/
theorem Consistent.answers (consistent : g.Consistent) (start : String) :
    Answers g start (g.order start) :=
  (consistent.walking_start start).answers (Rooted.frame g start)

/-- A settled list has all names within reach of each of its names. -/
theorem Settled.reach_closed (settled : Settled g order) (listed : u ∈ order)
    (path : ReflTransGen g.Edge u v) : v ∈ order := by
  -- Each step leads from a listed name to one behind it.
  induction path with
  | refl => exact listed
  | tail _ edge reached => exact settled.closed reached edge

/-- Every dependent of a name stands strictly behind it in a settled list of distinct names. -/
theorem Settled.idxOf_lt (settled : Settled g order) (distinct : order.Nodup) (listed : u ∈ order)
    (edge : g.Edge u v) : order.idxOf u < order.idxOf v := by
  induction order with
  | nil => simp at listed
  | cons first rest ih =>
    obtain ⟨fresh, restDistinct⟩ := List.nodup_cons.mp distinct
    -- The dependent stands in the rest, wherever the name itself stands.
    have behind : v ∈ rest := by
      rcases List.mem_cons.mp listed with rfl | later
      · exact settled.1 v edge
      · exact settled.2.closed later edge
    have different : first ≠ v := by
      intro same
      exact fresh (same ▸ behind)
    rw [List.idxOf_cons_ne rest different]
    rcases List.mem_cons.mp listed with rfl | later
    · -- The name itself stands first.
      rw [List.idxOf_cons_self]
      omega
    · -- Both stand in the rest, one place further from the front than there.
      have distinctNames : first ≠ u := by
        intro same
        exact fresh (same ▸ later)
      rw [List.idxOf_cons_ne rest distinctNames]
      have ahead := ih settled.2 restDistinct later
      omega

/-- An order of recalculation lists exactly the names within reach of its start. -/
theorem Consistent.mem_order_iff (consistent : g.Consistent) (ordered : g.order start = .ok order) :
    name ∈ order ↔ ReflTransGen g.Edge start name := by
  have schedule := consistent.schedule ordered
  constructor
  · -- The walk meets no other names.
    have answers := consistent.answers start
    rw [ordered] at answers
    exact answers name
  · -- The list is closed under dependents.
    exact schedule.settled.reach_closed schedule.start_mem

/-- An order of recalculation begins with its start. -/
theorem Consistent.head?_order (consistent : g.Consistent) (ordered : g.order start = .ok order) :
    order.head? = some start := by
  obtain ⟨listed, distinct, settled⟩ := consistent.schedule ordered
  cases order with
  | nil => simp at listed
  | cons first rest =>
    rw [List.head?_cons, Option.some.injEq]
    rcases List.mem_cons.mp listed with same | later
    · exact same.symm
    · -- Otherwise the first name is within reach of one behind it, and so stands there too.
      have path := (consistent.mem_order_iff ordered).mp (List.mem_cons_self (a := first))
      have again := settled.2.reach_closed later path
      exact absurd again (List.nodup_cons.mp distinct).1

end Worksheet.Graph
