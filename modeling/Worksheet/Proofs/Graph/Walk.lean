import Mathlib.Logic.Relation
import Worksheet.Graph.Order
import Worksheet.Proofs.Graph.Pairs

/-!
The walk behind the order of recalculation: what holds at each of its steps, and from that, that
every listed name stands before all of its dependents and that none of these is missing.
-/

namespace Worksheet.Graph

/-- Every name of a list has all its dependents behind it. -/
def Settled (g : Graph) : List String → Prop
  | [] => True
  | name :: rest => (∀ t, g.Edge name t → t ∈ rest) ∧ Settled g rest

/-- Every dependent of a frame is still waiting, left for good, or the name opened above it. -/
def Explored (g : Graph) (finished : List String) : Option String → List Frame → Prop
  | _, [] => True
  | above, frame :: below =>
    (∀ t, g.Edge frame.name t → t ∈ frame.waiting ∨ t ∈ finished ∨ above = some t) ∧
      Explored g finished (some frame.name) below

/-- What holds of a walk between its steps. -/
structure Walking (g : Graph) (unmet : NameMap NameSet) (active : NameSet)
    (finished : List String) (stack : List Frame) : Prop where
  covered : ∀ s t, g.Edge s t → t ∈ unmet ∨ t ∈ active ∨ t ∈ finished
  active_iff : ∀ name, name ∈ active ↔ name ∈ stack.map Frame.name
  distinct : (stack.map Frame.name ++ finished).Nodup
  unmet_new : ∀ name ∈ unmet, name ∉ stack.map Frame.name ++ finished
  queued : ∀ frame ∈ stack, ∀ t ∈ frame.waiting, g.Edge frame.name t
  explored : Explored g finished none stack
  settled : Settled g finished

variable {g : Graph} {unmet : NameMap NameSet} {active : NameSet} {finished : List String}
  {stack below : List Frame} {name child : String} {waiting : List String}

/-- A dependent of a settled name is listed too. -/
theorem Settled.closed {order : List String} (settled : Settled g order) {s t : String}
    (listed : s ∈ order) (edge : g.Edge s t) : t ∈ order := by
  -- The name stands somewhere in the list, and its dependents behind it.
  induction order with
  | nil => simp at listed
  | cons name rest ih =>
    rcases List.mem_cons.mp listed with rfl | later
    · exact List.mem_cons_of_mem s (settled.1 t edge)
    · exact List.mem_cons_of_mem name (ih settled.2 later)

/-- Nothing that the first name of a settled list depends on is listed, if names are distinct. -/
theorem Settled.not_mem_of_edge {first dependee : String} {rest : List String}
    (settled : Settled g (first :: rest)) (fresh : first ∉ rest) (edge : g.Edge dependee first) :
    dependee ∉ first :: rest := by
  -- A listed name has the first one behind it, where the first one is not.
  intro listed
  rcases List.mem_cons.mp listed with rfl | later
  · exact fresh (settled.1 dependee edge)
  · exact fresh (settled.2.closed later edge)

/-- Names left for good stay explored as more of them are. -/
theorem Explored.mono {above : Option String} {more : List String}
    (explored : Explored g finished above stack) (grown : ∀ t ∈ finished, t ∈ more) :
    Explored g more above stack := by
  -- Each frame keeps what it knows about its dependents.
  induction stack generalizing above with
  | nil => trivial
  | cons frame below ih =>
    refine ⟨fun t edge => ?_, ih explored.2⟩
    rcases explored.1 t edge with queued | done | opened
    · exact Or.inl queued
    · exact Or.inr (Or.inl (grown t done))
    · exact Or.inr (Or.inr opened)

/-- A frame whose opened dependent has been left for good needs nothing above it. -/
theorem Explored.close (explored : Explored g finished (some child) stack)
    (done : child ∈ finished) : Explored g finished none stack := by
  -- Only the topmost frame refers to the name opened above it.
  cases stack with
  | nil => trivial
  | cons frame below =>
    refine ⟨fun t edge => ?_, explored.2⟩
    rcases explored.1 t edge with queued | finished | opened
    · exact Or.inl queued
    · exact Or.inr (Or.inl finished)
    · cases opened
      exact Or.inr (Or.inl done)

/-- A name with nothing left waiting can be left for good. -/
theorem Walking.leave (walking : Walking g unmet active finished (⟨name, []⟩ :: below)) :
    Walking g unmet (active.erase name) (name :: finished) below := by
  have fresh : name ∉ below.map Frame.name ++ finished := (List.nodup_cons.mp walking.distinct).1
  have swapped : List.Perm (below.map Frame.name ++ name :: finished)
      (name :: (below.map Frame.name ++ finished)) := List.perm_middle
  -- All its dependents have been left before it, since none is waiting or open above it.
  have dependents : ∀ t, g.Edge name t → t ∈ finished := by
    intro t edge
    rcases walking.explored.1 t edge with queued | done | opened
    · simp at queued
    · exact done
    · simp at opened
  refine ⟨?_, ?_, ?_, ?_, fun frame member => walking.queued frame (by simp [member]), ?_, ?_⟩
  · -- The name is no longer open but finished, and all others are where they were.
    intro s t edge
    rcases walking.covered s t edge with new | open_ | done
    · exact Or.inl new
    · by_cases same : name = t
      · exact Or.inr (Or.inr (by simp [same]))
      · exact Or.inr (Or.inl (by simpa [Std.ExtTreeSet.mem_erase, same] using open_))
    · exact Or.inr (Or.inr (List.mem_cons_of_mem name done))
  · -- The open names are those left on the stack.
    intro n
    have before := walking.active_iff n
    simp only [List.map_cons, List.mem_cons] at before
    simp only [Std.ExtTreeSet.mem_erase, ne_eq, Std.compare_eq_iff_eq, before]
    constructor
    · rintro ⟨other, rfl | member⟩
      · exact absurd rfl other
      · exact member
    · intro member
      refine ⟨?_, Or.inr member⟩
      rintro rfl
      exact fresh (List.mem_append_left finished member)
  · -- A name only moves from the stack to the finished ones.
    exact swapped.nodup_iff.mpr walking.distinct
  · intro n new member
    exact walking.unmet_new n new (swapped.mem_iff.mp member)
  · -- The frame below has its current dependent finished now.
    exact (walking.explored.2.mono (fun t done => List.mem_cons_of_mem name done)).close (by simp)
  · exact ⟨dependents, walking.settled⟩

/-- The frames stay within the pairs when a name stops waiting. -/
theorem Walking.queued_drop
    (walking : Walking g unmet active finished (⟨name, child :: waiting⟩ :: below)) :
    ∀ frame ∈ (⟨name, waiting⟩ :: below : List Frame), ∀ t ∈ frame.waiting, g.Edge frame.name t := by
  -- Only the frame on top has lost a name, and what is left in it was queued before.
  intro frame member t queued
  rcases List.mem_cons.mp member with rfl | lower
  · exact walking.queued ⟨name, child :: waiting⟩ (by simp) t (List.mem_cons_of_mem child queued)
  · exact walking.queued frame (by simp [lower]) t queued

/-- A dependent that has been left for good is passed over. -/
theorem Walking.skip (walking : Walking g unmet active finished (⟨name, child :: waiting⟩ :: below))
    (inactive : child ∉ active) (met : child ∉ unmet) :
    Walking g unmet active finished (⟨name, waiting⟩ :: below) := by
  have edge : g.Edge name child := walking.queued ⟨name, child :: waiting⟩ (by simp) child (by simp)
  -- A dependent that is neither new nor open has been left for good.
  have done : child ∈ finished := by
    rcases walking.covered name child edge with new | open_ | done
    · exact absurd new met
    · exact absurd open_ inactive
    · exact done
  -- Only the frame on top has changed, by the name that was skipped.
  refine { walking with
    queued := walking.queued_drop
    explored := ⟨fun t edge => ?_, walking.explored.2⟩ }
  rcases walking.explored.1 t edge with queued | finished | opened
  · rcases List.mem_cons.mp queued with rfl | later
    · exact Or.inr (Or.inl done)
    · exact Or.inl later
  · exact Or.inr (Or.inl finished)
  · simp at opened

/-- A dependent that has not been met is opened. -/
theorem Walking.enter
    (walking : Walking g unmet active finished (⟨name, child :: waiting⟩ :: below))
    (new : child ∈ unmet) :
    Walking g (unmet.erase child) (active.insert child) finished
      (g.frame child :: ⟨name, waiting⟩ :: below) := by
  have fresh := walking.unmet_new child new
  refine ⟨?_, ?_, ?_, ?_, ?_, ?_, walking.settled⟩
  · -- The dependent is open instead of new.
    intro s t edge
    by_cases same : child = t
    · exact Or.inr (Or.inl (by simp [Std.ExtTreeSet.mem_insert, same]))
    · rcases walking.covered s t edge with new | open_ | done
      · exact Or.inl (by simpa [Std.ExtTreeMap.mem_erase, same] using new)
      · exact Or.inr (Or.inl (by simp [Std.ExtTreeSet.mem_insert, open_]))
      · exact Or.inr (Or.inr done)
  · -- It is the name of the frame on top of the stack.
    intro n
    have before := walking.active_iff n
    simp only [List.map_cons, List.mem_cons] at before
    simp only [Std.ExtTreeSet.mem_insert, Std.compare_eq_iff_eq, before, List.map_cons,
      List.mem_cons, frame]
    rw [eq_comm]
  · exact List.nodup_cons.mpr ⟨fresh, walking.distinct⟩
  · -- No other new name is open or finished because of it.
    intro n left
    simp only [Std.ExtTreeMap.mem_erase, ne_eq, Std.compare_eq_iff_eq] at left
    simp only [List.map_cons, List.cons_append, List.mem_cons, frame, not_or]
    exact ⟨fun same => left.1 same.symm, by simpa using walking.unmet_new n left.2⟩
  · -- All its dependents are waiting.
    intro opened member t queued
    rcases List.mem_cons.mp member with rfl | lower
    · exact Std.ExtTreeSet.mem_toList.mp queued
    · exact walking.queued_drop opened lower t queued
  · refine ⟨fun t edge => Or.inl (Std.ExtTreeSet.mem_toList.mpr edge), fun t edge => ?_,
      walking.explored.2⟩
    -- The name that was next among the waiting ones is now the one above.
    rcases walking.explored.1 t edge with queued | done | opened
    · rcases List.mem_cons.mp queued with rfl | later
      · exact Or.inr (Or.inr rfl)
      · exact Or.inl later
    · exact Or.inr (Or.inl done)
    · simp at opened

/-- A walk that meets no open name lists every name it has met, each before its dependents. -/
theorem Walking.walk_ok {order : List String} (walking : Walking g unmet active finished stack)
    (walked : g.walk unmet active finished stack = .ok order) :
    order.Nodup ∧ Settled g order ∧ ∀ name ∈ stack.map Frame.name ++ finished, name ∈ order := by
  -- The invariant is carried along the steps of the walk, which end with an empty stack.
  induction unmet, active, finished, stack using walk.induct g with
  | case1 unmet active finished =>
    simp only [walk, Except.ok.injEq] at walked
    subst walked
    -- With an empty stack the finished names are the order.
    exact ⟨by simpa using walking.distinct, walking.settled, by simp⟩
  | case2 unmet active finished name below ih =>
    rw [walk] at walked
    obtain ⟨distinct, settled, kept⟩ := ih walking.leave walked
    refine ⟨distinct, settled, fun n member => kept n ?_⟩
    simpa [or_left_comm] using member
  | case3 unmet active finished name child waiting below open_ =>
    -- An open dependent would have been a refusal.
    simp [walk, open_] at walked
  | case4 unmet active finished name child waiting below inactive new ih =>
    rw [walk, if_neg inactive, if_pos new] at walked
    -- A new dependent is opened, and kept from then on.
    have entered := walking.enter (Std.ExtTreeMap.mem_iff_contains.mpr new)
    obtain ⟨distinct, settled, kept⟩ := ih entered walked
    exact ⟨distinct, settled, fun n member => kept n (List.mem_cons_of_mem child member)⟩
  | case5 unmet active finished name child waiting below inactive met ih =>
    rw [walk, if_neg inactive, if_neg met] at walked
    have skipped := walking.skip (fun open_ => inactive (Std.ExtTreeSet.mem_iff_contains.mp open_))
      (fun new => met (Std.ExtTreeMap.mem_iff_contains.mp new))
    exact ih skipped walked

/-- A walk begins with its first name open and every other dependent of any name not met. -/
theorem Consistent.walking_start (consistent : g.Consistent) (start : String) :
    Walking g (g.dependees.erase start) {start} [] [g.frame start] := by
  refine ⟨?_, ?_, by simp, ?_, ?_, ?_, trivial⟩
  · intro s t edge
    -- A dependent of any name has what it depends on stored in the other index.
    have stored : t ∈ g.dependees := mem_of_mem_neighbours ((consistent.mirrored s t).mpr edge)
    by_cases same : start = t
    · exact Or.inr (Or.inl (by simp [same]))
    · exact Or.inl (by simpa [Std.ExtTreeMap.mem_erase, same] using stored)
  · -- The start is the one open name.
    intro name
    simp only [Std.ExtTreeSet.singleton_eq_insert, Std.ExtTreeSet.mem_insert, Std.compare_eq_iff_eq,
      Std.ExtTreeSet.not_mem_empty, or_false, List.map_cons, List.map_nil, List.mem_singleton, frame]
    rw [eq_comm]
  · -- The start is not among the new ones.
    intro name left
    simp only [Std.ExtTreeMap.mem_erase, ne_eq, Std.compare_eq_iff_eq] at left
    simpa [frame] using Ne.symm left.1
  · -- All its dependents are waiting.
    intro opened member t queued
    rw [List.mem_singleton.mp member] at queued ⊢
    exact Std.ExtTreeSet.mem_toList.mp queued
  · exact ⟨fun t edge => Or.inl (Std.ExtTreeSet.mem_toList.mpr edge), trivial⟩

/-- A list of names that starts a recalculation: the changed one is in it, no name occurs twice, and
every dependent of a listed name stands behind it. -/
structure Schedule (g : Graph) (start : String) (order : List String) : Prop where
  start_mem : start ∈ order
  distinct : order.Nodup
  settled : Settled g order

/-- An order of recalculation is a schedule. -/
theorem Consistent.schedule {start : String} {order : List String} (consistent : g.Consistent)
    (ordered : g.order start = .ok order) : Schedule g start order := by
  -- The walk begins with the one frame of its start and nothing finished.
  obtain ⟨distinct, settled, kept⟩ := (consistent.walking_start start).walk_ok ordered
  exact ⟨kept start (by simp [frame]), distinct, settled⟩

/-- A name without dependents is all there is to recalculate when it changes. -/
theorem order_of_no_dependents {start : String} (alone : (g.dependentsOf start).toList = []) :
    g.order start = .ok [start] := by
  simp [order, frame, alone, walk]

/-- No way along dependents leads back into a settled list of distinct names. -/
theorem Settled.no_return {order : List String} (settled : Settled g order) (distinct : order.Nodup)
    (listed : name ∈ order) : ¬Relation.TransGen g.Edge name name := by
  induction order with
  | nil => simp at listed
  | cons first rest ih =>
    obtain ⟨fresh, restDistinct⟩ := List.nodup_cons.mp distinct
    rcases List.mem_cons.mp listed with rfl | later
    · -- From the first name every step leads into the rest, which is closed under dependents.
      have ahead : ∀ t, Relation.TransGen g.Edge name t → t ∈ rest := by
        intro t path
        induction path with
        | single edge => exact settled.1 _ edge
        | tail _ edge inside => exact settled.2.closed inside edge
      exact fun cycle => fresh (ahead name cycle)
    · exact ih settled.2 restDistinct later

end Worksheet.Graph
