import Mathlib.Order.WellFoundedSet
import Worksheet.Proofs.Graph.Walk

/-!
A graph without cycles stays one under every change that has an order of recalculation, and what
holds of a name as soon as it holds of all that the name depends on holds of every name.
-/

namespace Worksheet.Graph

open Relation

/-- No name depends on itself, directly or through others. -/
def Acyclic (g : Graph) : Prop :=
  ∀ name, ¬TransGen g.Edge name name

variable {g : Graph} {t u v : String} {names : List String}

/-- A graph without pairs has no cycles. -/
theorem Acyclic.empty : Acyclic empty := by
  intro name cycle
  -- The last step of a cycle would be a pair.
  cases cycle with
  | single edge => simp [Edge, Graph.empty, dependentsOf, neighbours] at edge
  | tail _ edge => simp [Edge, Graph.empty, dependentsOf, neighbours] at edge

/-- In a graph without cycles nothing depends on other names without end. -/
theorem Acyclic.wellFounded (acyclic : g.Acyclic) : WellFounded g.Edge := by
  have ordered : IsStrictOrder String (TransGen g.Edge) :=
    { irrefl := acyclic, trans := fun _ _ _ => TransGen.trans }
  refine ⟨fun name => ?_⟩
  -- Whatever a name depends on stands first in one of finitely many pairs.
  have finite : {s | TransGen g.Edge s name}.Finite := by
    refine (List.finite_toSet (g.pairs.map Prod.fst)).subset ?_
    intro s path
    obtain ⟨t, edge, -⟩ := TransGen.head'_iff.mp path
    exact List.mem_map.mpr ⟨(s, t), mem_pairs.mpr edge, rfl⟩
  have descends : {s | TransGen g.Edge s name}.WellFoundedOn g.Edge :=
    finite.wellFoundedOn.mono (fun _ _ => TransGen.single) subset_rfl
  exact (Set.WellFoundedOn.acc_iff_wellFoundedOn.out 0 2).mpr descends

/-- A way along dependents after one name's pairs are replaced is an old one or leads through that
name. -/
theorem Consistent.path_replaceDependees (consistent : g.Consistent)
    (path : TransGen (g.replaceDependees t names).Edge u v) :
    TransGen g.Edge u v ∨
      (ReflTransGen (g.replaceDependees t names).Edge u t ∧
        ReflTransGen (g.replaceDependees t names).Edge t v) := by
  -- Each new pair ends in the name, so that the way passes it where it stops being an old one.
  induction path with
  | single edge =>
    rcases consistent.edge_replaceDependees.mp edge with ⟨old, _⟩ | ⟨_, rfl⟩
    · exact Or.inl (.single old)
    · exact Or.inr ⟨.single edge, .refl⟩
  | tail path edge ih =>
    rcases consistent.edge_replaceDependees.mp edge with ⟨old, _⟩ | ⟨_, rfl⟩
    · rcases ih with before | ⟨toName, fromName⟩
      · exact Or.inl (before.tail old)
      · exact Or.inr ⟨toName, fromName.tail edge⟩
    · exact Or.inr ⟨path.to_reflTransGen.tail edge, .refl⟩

/-- Replacing what a name depends on closes no cycle if the walk from that name meets none. -/
theorem Acyclic.replaceDependees {order : List String} (acyclic : g.Acyclic)
    (consistent : g.Consistent) (ordered : (g.replaceDependees t names).order t = .ok order) :
    (g.replaceDependees t names).Acyclic := by
  intro name cycle
  have schedule := consistent.replaceDependees.schedule ordered
  rcases consistent.path_replaceDependees cycle with old | ⟨toName, fromName⟩
  · exact acyclic name old
  · -- A new cycle leads through the changed name, and so from it back to it.
    have returns : TransGen (g.replaceDependees t names).Edge t t :=
      (TransGen.trans_right fromName cycle).trans_left toName
    exact schedule.settled.no_return schedule.distinct schedule.start_mem returns

end Worksheet.Graph
