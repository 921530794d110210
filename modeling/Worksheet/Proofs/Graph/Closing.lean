import Worksheet.Proofs.Graph.Acyclic
import Worksheet.Proofs.Graph.Path

/-!
When a change closes a cycle in a graph that has none: exactly if a name is made to depend on one
within its own reach, and then the refusal shows a path from that name back to it.
-/

namespace Worksheet.Graph

open Relation

variable {g : Graph} {t last u v : String} {names path inner rest way order : List String}

/-- Every name on a path is within reach of its first one, by at least one step. -/
theorem transGen_of_isChain (linked : (u :: rest).IsChain g.Edge) (member : v ∈ rest) :
    TransGen g.Edge u v :=
  (linked.imp fun _ _ edge => TransGen.single edge).rel_cons member

/-- A path that leads into a name nowhere is an old one, although what the name depends on is
replaced. -/
theorem Consistent.isChain_of_replaceDependees (consistent : g.Consistent) (avoids : t ∉ rest)
    (linked : (u :: rest).IsChain (g.replaceDependees t names).Edge) :
    (u :: rest).IsChain g.Edge := by
  apply linked.imp_of_mem_tail_imp
  intro a b _ later edge
  -- A new pair ends in the name, but no step of the path does.
  rcases consistent.edge_replaceDependees.mp edge with ⟨old, -⟩ | ⟨-, rfl⟩
  · exact old
  · exact absurd later avoids

/-- No way from a name of a graph without cycles is lost when what the name depends on is replaced. -/
theorem Acyclic.reach_replaceDependees (acyclic : g.Acyclic) (consistent : g.Consistent)
    (old : ReflTransGen g.Edge t v) : ReflTransGen (g.replaceDependees t names).Edge t v := by
  induction old with
  | refl => exact .refl
  | @tail between next before edge ih =>
    -- The way never returns to the name, so that each of its steps is kept.
    have away : next ≠ t := by
      intro same
      subst same
      exact acyclic next (TransGen.tail' before edge)
    exact ih.tail (consistent.edge_replaceDependees.mpr (Or.inl ⟨edge, away⟩))

/-- A loop that begins at the name whose pairs were replaced also ends there. -/
theorem Acyclic.last_eq_of_loop (acyclic : g.Acyclic) (consistent : g.Consistent)
    (loop : Loop (g.replaceDependees t names) t way last) : last = t := by
  obtain ⟨before, inner, rfl, -, -, circle⟩ := loop.exists_circle
  cases before with
  | nil =>
    -- The circle begins where the loop does.
    exact Option.some.inj loop.starts
  | cons first others =>
    -- Otherwise the circle avoids the name, and the old graph has it too.
    exfalso
    obtain rfl : first = t := Option.some.inj loop.starts
    have fresh : first ∉ others ++ last :: inner := (List.nodup_cons.mp loop.distinct).1
    have away : first ∉ inner ++ [last] := by
      intro member
      rcases List.mem_append.mp member with inside | atEnd
      · exact fresh (by simp [inside])
      · exact fresh (by simp [List.mem_singleton.mp atEnd])
    have old := consistent.isChain_of_replaceDependees away circle
    exact acyclic last (transGen_of_isChain old (by simp))

/-- A refusal shows a path from the changed name through distinct other ones and back to it. -/
theorem Acyclic.circle_of_order (acyclic : g.Acyclic) (consistent : g.Consistent)
    (refused : (g.replaceDependees t names).order t = .error path) :
    ∃ inner, path = t :: inner ++ [t] ∧ inner.Nodup ∧ t ∉ inner ∧
      path.IsChain (g.replaceDependees t names).Edge := by
  have replaced : (g.replaceDependees t names).Consistent := consistent.replaceDependees
  have answers := replaced.answers t
  rw [refused] at answers
  obtain ⟨way, last, rfl, loop⟩ := answers
  -- The loop begins and ends at the changed name.
  obtain rfl := acyclic.last_eq_of_loop consistent loop
  obtain ⟨inner, rfl⟩ := List.head?_eq_some_iff.mp loop.starts
  obtain ⟨fresh, distinct⟩ := List.nodup_cons.mp loop.distinct
  exact ⟨inner, rfl, distinct, fresh, loop.linked⟩

/-- The last step of such a path is a new pair, whose first name was within reach before. -/
theorem Consistent.reached_of_circle (consistent : g.Consistent) (fresh : t ∉ inner)
    (linked : (t :: inner ++ [t]).IsChain (g.replaceDependees t names).Edge) :
    ∃ v ∈ names, ReflTransGen g.Edge t v := by
  obtain ⟨last, ends⟩ : ∃ last, (t :: inner).getLast? = some last := ⟨_, List.getLast?_cons⟩
  obtain ⟨outward, -, back⟩ := List.isChain_append.mp linked
  refine ⟨last, ?_, ?_⟩
  · -- A pair that ends in the changed name is a new one.
    rcases consistent.edge_replaceDependees.mp (back last ends t rfl) with ⟨-, away⟩ | ⟨member, -⟩
    · exact absurd rfl away
    · exact member
  · -- The steps before it lead into other names, and so they are old ones.
    have old := consistent.isChain_of_replaceDependees fresh outward
    rcases List.mem_cons.mp (List.mem_of_getLast? ends) with same | later
    · rw [same]
    · exact (transGen_of_isChain old later).to_reflTransGen

/-- There is no order once a name depends on one within its reach. -/
theorem Acyclic.order_ne_ok (acyclic : g.Acyclic) (consistent : g.Consistent) (member : v ∈ names)
    (reached : ReflTransGen g.Edge t v) : (g.replaceDependees t names).order t ≠ .ok order := by
  intro ordered
  have schedule := consistent.replaceDependees.schedule ordered
  have back : (g.replaceDependees t names).Edge v t :=
    consistent.edge_replaceDependees.mpr (Or.inr ⟨member, rfl⟩)
  -- The order would list the name, from which there is now a way back to it.
  have cycle : TransGen (g.replaceDependees t names).Edge t t :=
    TransGen.tail' (acyclic.reach_replaceDependees consistent reached) back
  exact schedule.settled.no_return schedule.distinct schedule.start_mem cycle

/-- A name cannot be made to depend on some names exactly if one of them is within its reach. -/
theorem Acyclic.order_refused_iff (acyclic : g.Acyclic) (consistent : g.Consistent) :
    (∃ path, (g.replaceDependees t names).order t = .error path) ↔
      ∃ v ∈ names, ReflTransGen g.Edge t v := by
  constructor
  · -- The cycle that is shown runs through one of the new edges.
    intro ⟨path, refused⟩
    obtain ⟨inner, rfl, -, fresh, linked⟩ := acyclic.circle_of_order consistent refused
    exact consistent.reached_of_circle fresh linked
  · -- A way to the new edge closes a cycle with it, so that no order can be given.
    intro ⟨v, member, reached⟩
    cases answer : (g.replaceDependees t names).order t with
    | error path => exact ⟨path, rfl⟩
    | ok order => exact absurd answer (acyclic.order_ne_ok consistent member reached)

end Worksheet.Graph
