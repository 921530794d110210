import Worksheet.Graph.Basic

/-!
The order of recalculation after a change: a depth-first walk along dependents, which either lists
every name it reaches behind those it depends on or meets a name that is still open.
-/

namespace Worksheet

/-- A name on the path of a walk, with the dependents that the walk has not looked at. -/
structure Frame where
  name : String
  waiting : List String

/-- How many steps a stack of frames takes when it opens no further name. -/
def Frame.weight (stack : List Frame) : Nat :=
  stack.foldr (fun frame steps => frame.waiting.length + 1 + steps) 0

/-- Erasing a stored name leaves a smaller map. -/
theorem size_erase_lt {α : Type} {names : NameMap α} {name : String}
    (present : names.contains name = true) : (names.erase name).size < names.size := by
  -- A map with a stored name is not empty, so that its size has a predecessor.
  have nonempty : names.size ≠ 0 := fun zero => by
    rw [← Std.ExtTreeMap.eq_empty_iff_size_eq_zero] at zero
    simp [zero] at present
  rw [Std.ExtTreeMap.size_erase, if_pos present]
  omega

namespace Graph

/-- Opens a name for a walk. -/
def frame (g : Graph) (name : String) : Frame :=
  ⟨name, (g.dependentsOf name).toList⟩

/-- Continues a walk from its stack, given the dependents not met yet, the names on the stack and
those left for good, the latest first. -/
def walk (g : Graph) (unmet : NameMap NameSet) (active : NameSet) (finished : List String) :
    List Frame → Except (List String) (List String)
  | [] => .ok finished
  | ⟨name, []⟩ :: below => walk g unmet (active.erase name) (name :: finished) below
  | ⟨name, child :: waiting⟩ :: below =>
    if active.contains child then
      -- The path leads back to a name that is still open.
      .error (((name :: below.map Frame.name).reverse) ++ [child])
    else if unmet.contains child then
      walk g (unmet.erase child) (active.insert child) finished
        (g.frame child :: ⟨name, waiting⟩ :: below)
    else walk g unmet active finished (⟨name, waiting⟩ :: below)
termination_by stack => (unmet.size, Frame.weight stack)
decreasing_by
  · exact Prod.Lex.right _ (by simp only [Frame.weight, List.foldr_cons]; omega)
  · rename_i present
    exact Prod.Lex.left _ _ (size_erase_lt present)
  · exact Prod.Lex.right _ (by simp only [Frame.weight, List.foldr_cons, List.length_cons]; omega)

/-- The names to recalculate after a name changes, each behind those it depends on, or a path along
dependents that ends with a name already on it. -/
def order (g : Graph) (start : String) : Except (List String) (List String) :=
  g.walk (g.dependees.erase start) {start} [] [g.frame start]

end Graph

end Worksheet
