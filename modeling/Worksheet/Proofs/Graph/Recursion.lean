import Worksheet.Proofs.Graph.Changes
import Worksheet.Proofs.Graph.Search

/-!
The search behind the order of recalculation, which keeps a stack of its own, is the recursive one: each
frame of the stack is a visit that waits for the one above it.
-/

namespace Worksheet.Graph

mutual

/-- Visits a name at the end of a path: puts it there, meets its dependents in ascending order, and then
leaves it for good. A visit that does not come to an end has no result. -/
def visit (g : Graph) (path : List String) (search : Search) (name : String) :
    ExceptT (List String) Option Search := do
  let searched ← (g.dependentsOf name).toList.foldlM (g |>.meet (path ++ [name])) (search.enter name)
  return searched.leave name
partial_fixpoint

/-- Meets a dependent of the last name on a path: a name on the path closes a cycle, one that has been
left for good is passed over, and one that is new is visited. -/
def meet (g : Graph) (path : List String) (search : Search) (child : String) :
    ExceptT (List String) Option Search :=
  match search.marks[child]? with
  | some .active => throw (path ++ [child])
  | some .finished => return search
  | none => g |>.visit path search child
partial_fixpoint

end

/-- The names that a visit of a name leaves for good, the latest first, or a path that leads back to a
name on it. -/
def recursiveOrder (g : Graph) (start : String) : ExceptT (List String) Option (List String) := do
  let searched ← g.visit [] .empty start
  return searched.finished.reverse

/-- Goes on with the visits that the frames of a stack stand for, the topmost first. -/
def resume (g : Graph) (search : Search) : List Frame → ExceptT (List String) Option (List String)
  | [] => return search.finished.reverse
  | ⟨name, waiting⟩ :: below => do
    let searched ← waiting.foldlM (g.meet (name :: below.map Frame.name).reverse) search
    g.resume (searched.leave name) below

variable {g : Graph} {search : Search} {stack : List Frame}
  {answer : Except (List String) (List String)}

/-- The visits that a stack stands for end as the search with that stack does. -/
theorem Runs.resume_eq (runs : g.Runs search stack answer) :
    (g.resume search stack).run = some answer := by
  induction runs with
  | done => rfl
  | leave _ ih =>
    -- A visit without waiting dependents returns to the one below it.
    rw [resume, List.foldlM_nil, pure_bind]
    exact ih
  | close open_ =>
    -- The path of the visit is that of the names on the stack, and no other visit goes on.
    rw [resume, List.foldlM_cons, meet, open_]
    rfl
  | skip met _ ih =>
    rw [resume] at ih
    rw [resume, List.foldlM_cons, meet, met]
    dsimp only
    rw [pure_bind]
    exact ih
  | enter new _ ih =>
    -- A visit of the dependent comes first, and what follows waits below its frame.
    simp only [frame, resume, List.map_cons, List.reverse_cons] at ih
    simp only [resume, List.foldlM_cons, List.reverse_cons, meet, new, visit, bind_assoc, pure_bind]
    exact ih

/-- The visit of a name is what the stack of that name alone stands for. -/
theorem recursiveOrder_eq (g : Graph) (start : String) :
    g.recursiveOrder start = g.resume (Search.empty.enter start) [g.frame start] := by
  -- Nothing waits below the first name, behind which the names are listed.
  simp [recursiveOrder, visit, frame, resume]

/-- Whatever changes led to a graph, the recursive search from any name comes to an end, and its answer
is that of the order of recalculation: the same names one by one or the same path back to a name on
it. -/
theorem order_eq_recursive (changes : List Change) (start : String) :
    ((ofChanges changes).recursiveOrder start).run = some ((ofChanges changes).order start) := by
  have consistent := (consistent_ofChanges changes).1
  -- The search with a stack ends, and so do the visits that its only frame stands for.
  have runs : (ofChanges changes).RunsFrom start ((ofChanges changes).order start) :=
    (consistent.runsFrom_iff start).mpr rfl
  rw [recursiveOrder_eq]
  exact runs.resume_eq

end Worksheet.Graph
