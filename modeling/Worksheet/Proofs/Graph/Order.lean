import Worksheet.Proofs.Graph.Changes
import Worksheet.Proofs.Graph.Closing
import Worksheet.Proofs.Graph.Search

/-!
There is an order of recalculation exactly if no cycle is within reach of its start. Then it lists the
names within reach, each behind all that it depends on, and otherwise a refusal shows such a cycle.
-/

namespace Worksheet.Graph

open Relation

variable {g : Graph} {start last name : String} {way path : List String}

/-- Every name of a loop is within reach of its start. -/
theorem Loop.reached (loop : Loop g start way last) (member : name ∈ way) :
    ReflTransGen g.Edge start name := by
  obtain ⟨rest, rfl⟩ := List.head?_eq_some_iff.mp loop.starts
  rcases List.mem_cons.mp member with rfl | later
  · exact .refl
  · -- The way that leads back is a path from the start, also without its last step.
    have linked : (start :: rest).IsChain g.Edge := loop.linked.left_of_append
    exact (transGen_of_isChain linked later).to_reflTransGen

/-- The name that a loop leads back to depends on itself, directly or through others. -/
theorem Loop.cycle (loop : Loop g start way last) : TransGen g.Edge last last := by
  -- The way from the last name around to itself is a chain of edges.
  obtain ⟨before, inner, -, -, -, linked⟩ := loop.exists_circle
  exact transGen_of_isChain linked (List.mem_append_right inner List.mem_cons_self)

/-- There is an order of recalculation exactly if no name within reach depends on itself. -/
theorem Consistent.order_eq_ok_iff (consistent : g.Consistent) :
    (∃ order, g.order start = .ok order) ↔
      ∀ name, ReflTransGen g.Edge start name → ¬TransGen g.Edge name name := by
  constructor
  · -- An order lists every name within reach, and no way leads back to a listed one.
    rintro ⟨order, ordered⟩ name reached
    have schedule := consistent.schedule ordered
    have listed := (consistent.mem_order_iff ordered).mpr reached
    exact schedule.settled.no_return schedule.distinct listed
  · -- A refusal would show a name that depends on itself.
    intro acyclic
    cases answer : g.order start with
    | ok order => exact ⟨order, rfl⟩
    | error path =>
      have answers := consistent.answers start
      rw [answer] at answers
      obtain ⟨way, last, -, loop⟩ := answers
      exact absurd loop.cycle (acyclic last (loop.reached loop.closes))

/-- Whatever changes led to a graph, the search from any name comes to an end. It gives an order exactly
if no name within reach depends on itself, directly or through others. An order begins with its start
and lists the names within reach, each of them once and with all its dependents strictly behind it. -/
theorem order_topological (changes : List Change) (start : String) :
    (∀ answer, (ofChanges changes).RunsFrom start answer ↔
      answer = (ofChanges changes).order start) ∧
    ((∃ order, (ofChanges changes).order start = .ok order) ↔
      ∀ name, ReflTransGen (ofChanges changes).Edge start name →
        ¬TransGen (ofChanges changes).Edge name name) ∧
    ∀ order, (ofChanges changes).order start = .ok order →
      order.head? = some start ∧ order.Nodup ∧
      (∀ name, name ∈ order ↔ ReflTransGen (ofChanges changes).Edge start name) ∧
      ∀ u v, (ofChanges changes).Edge u v → u ∈ order →
        v ∈ order ∧ order.idxOf u < order.idxOf v := by
  -- Whatever changes were made, the graph is consistent, and the walk gives a schedule on such a
  -- graph.
  have consistent := (consistent_ofChanges changes).1
  refine ⟨fun answer => consistent.runsFrom_iff start, consistent.order_eq_ok_iff, ?_⟩
  intro order ordered
  have schedule := consistent.schedule ordered
  refine ⟨consistent.head?_order ordered, schedule.distinct, ?_, ?_⟩
  · intro name
    exact consistent.mem_order_iff ordered
  · -- What depends on a listed name is settled behind it.
    intro u v edge listed
    have behind := schedule.settled.idxOf_lt schedule.distinct listed edge
    exact ⟨schedule.settled.closed listed edge, behind⟩

/-- A single pair has an order, which lists the name that depends on the other one behind it. -/
theorem order_topological_pair :
    ∃ order, (ofChanges [.add "a" "b"]).order "a" = .ok order ∧
      "b" ∈ order ∧ order.idxOf "a" < order.idxOf "b" := by
  -- The one pair is the only edge.
  have edge_iff : ∀ s t, (ofChanges [.add "a" "b"]).Edge s t ↔ s = "a" ∧ t = "b" := by
    intro s t
    rw [(consistent_ofChanges _).2]
    simp [pairsOf, Change.applyTo]
  obtain ⟨-, ordered_iff, listed⟩ := order_topological [.add "a" "b"] "a"
  obtain ⟨order, ordered⟩ := ordered_iff.mpr <| by
    -- A cycle would begin where the pair begins and end where it ends.
    intro name _ cycle
    obtain ⟨next, first, -⟩ := TransGen.head'_iff.mp cycle
    obtain ⟨previous, -, last⟩ := TransGen.tail'_iff.mp cycle
    have same : "a" = "b" := ((edge_iff name next).mp first).1.symm.trans
      ((edge_iff previous name).mp last).2
    exact absurd same (by decide)
  -- The start is listed, and so what depends on it is listed behind it.
  obtain ⟨starts, -, -, behind⟩ := listed order ordered
  have first : "a" ∈ order := List.mem_of_head? starts
  exact ⟨order, ordered, behind "a" "b" ((edge_iff "a" "b").mpr ⟨rfl, rfl⟩) first⟩

/-- Whatever changes led to a graph, a refusal shows a path of at least two names from the start along
dependents. No name but the last one occurs on it twice. From where the last one occurs first, the path
goes round a cycle within reach of the start, through distinct names. -/
theorem refusal_shows_cycle (changes : List Change) (start : String) (path : List String)
    (refused : (ofChanges changes).order start = .error path) :
    2 ≤ path.length ∧ path.head? = some start ∧ path.IsChain (ofChanges changes).Edge ∧
    path.dropLast.Nodup ∧
    ∃ before inner last, path = before ++ last :: inner ++ [last] ∧ last ∉ before ∧
      (last :: inner).Nodup ∧ (last :: inner ++ [last]).IsChain (ofChanges changes).Edge ∧
      ReflTransGen (ofChanges changes).Edge start last := by
  -- A walk that is refused has found a way from the start that leads back to one of its own names.
  have consistent := (consistent_ofChanges changes).1
  have answers := consistent.answers start
  rw [refused] at answers
  obtain ⟨way, last, rfl, loop⟩ := answers
  obtain ⟨before, inner, spelled, first, distinct, circle⟩ := loop.exists_circle
  refine ⟨?_, ?_, loop.linked, ?_, before, inner, last, ?_, first, distinct, circle, ?_⟩
  · -- The way has the name that it leads back to, which comes once more behind it.
    have positive := List.length_pos_of_mem loop.closes
    rw [List.length_append, List.length_singleton]
    omega
  · rw [List.head?_append, loop.starts]
    rfl
  · rw [List.dropLast_concat]
    exact loop.distinct
  · rw [spelled]
  · exact loop.reached loop.closes

/-- A refusal shows a name that depends on itself also when the walk began at another one. -/
theorem refusal_shows_cycle_elsewhere :
    (ofChanges [.add "a" "b", .add "b" "b"]).order "a" = .error ["a", "b", "b"] ∧
      ∃ before inner last, ["a", "b", "b"] = before ++ last :: inner ++ [last] ∧ last ∉ before ∧
        ReflTransGen (ofChanges [.add "a" "b", .add "b" "b"]).Edge "a" last := by
  have refused : (ofChanges [.add "a" "b", .add "b" "b"]).order "a" = .error ["a", "b", "b"] := by
    -- The walk enters the second name and meets it again among its own dependents.
    have first : ((ofChanges [.add "a" "b", .add "b" "b"]).dependentsOf "a").toList = ["b"] := by
      decide +kernel
    have second : ((ofChanges [.add "a" "b", .add "b" "b"]).dependentsOf "b").toList = ["b"] := by
      decide +kernel
    have unmet : ((ofChanges [.add "a" "b", .add "b" "b"]).dependees.erase "a").contains "b" = true := by
      decide +kernel
    simp [order, frame, walk, first, second, unmet]
  obtain ⟨-, -, -, -, before, inner, last, spelled, fresh, -, -, reached⟩ :=
    refusal_shows_cycle [.add "a" "b", .add "b" "b"] "a" ["a", "b", "b"] refused
  exact ⟨refused, before, inner, last, spelled, fresh, reached⟩

end Worksheet.Graph
