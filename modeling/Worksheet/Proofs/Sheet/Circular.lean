import Worksheet.Proofs.Graph.Closing
import Worksheet.Proofs.Sheet.Sound

/-!
When an edit is refused as circular: exactly if the new formula refers to its own cell or to one that
depends on it already, and the refusal shows a way from the cell back to itself.
-/

namespace Worksheet.Sheet

open Relation

variable {sheet : Sheet} {name input target v : String} {contents : Option Contents}
  {cycle : List String}

/-- Whether contents refer to the cell that they are meant for or to one that depends on it. -/
def Closes (sheet : Sheet) (target : String) (contents : Option Contents) : Prop :=
  ∃ f, contents = some (.formula f) ∧ ∃ v ∈ f.references, ReflTransGen sheet.graph.Edge target v

/-- The variables of what is entered are those of a formula. -/
theorem mem_references_getD : v ∈ (contents.map Contents.references).getD [] ↔
    ∃ f, contents = some (.formula f) ∧ v ∈ f.references := by
  cases contents with
  | none => simp
  | some value =>
    -- Numbers and texts have no variables.
    cases value <;> simp [Contents.references]

/-- Contents cannot be placed exactly if they close a cycle. -/
theorem Sound.order_refused_iff (sound : sheet.Sound) :
    (∃ cycle, (sheet.placed target contents).graph.order target = .error cycle) ↔
      sheet.Closes target contents := by
  have refused : (∃ cycle, (sheet.placed target contents).graph.order target = .error cycle) ↔
      ∃ v ∈ (contents.map Contents.references).getD [], ReflTransGen sheet.graph.Edge target v :=
    sound.acyclic.order_refused_iff sound.consistent
  rw [refused]
  constructor
  · -- A new pair can only stem from a formula.
    intro ⟨v, member, reached⟩
    obtain ⟨f, formula, refers⟩ := mem_references_getD.mp member
    exact ⟨f, formula, v, refers, reached⟩
  · intro ⟨f, formula, v, refers, reached⟩
    exact ⟨v, mem_references_getD.mpr ⟨f, formula, refers⟩, reached⟩

/-- The path that a refusal shows, as the dependencies would be with the new formula. -/
theorem Sound.circle_of_placed {f : Formula} (sound : sheet.Sound)
    (formula : contents = some (.formula f))
    (refused : (sheet.placed target contents).graph.order target = .error cycle) :
    ∃ inner, cycle = target :: inner ++ [target] ∧ inner.Nodup ∧ target ∉ inner ∧
      cycle.IsChain fun a b => if b = target then a ∈ f.references else sheet.graph.Edge a b := by
  obtain ⟨inner, spelled, distinct, fresh, linked⟩ :=
    sound.acyclic.circle_of_order sound.consistent refused
  refine ⟨inner, spelled, distinct, fresh, linked.imp ?_⟩
  intro a b edge
  -- The pairs that end in the edited cell are those of the new formula, all others the old ones.
  rcases sound.consistent.edge_replaceDependees.mp edge with ⟨old, away⟩ | ⟨member, same⟩
  · rwa [if_neg away]
  · rw [if_pos same]
    simpa [formula, Contents.references] using member

/-- An edit of an allowed name with an input that can be read answers as the order of recalculation
from that name does. -/
theorem set_answer (consistent : sheet.graph.Consistent)
    (named : sheet.cellName? name = some target)
    (read : Contents.ofInput sheet.settings.naming input = .ok contents) :
    (sheet.set name input).1 =
      ((sheet.placed target contents).graph.order target).mapError (.circularDependency target) := by
  -- Neither the name nor the input is refused, so that the order alone decides.
  rw [set_eq_put named read]
  rcases put_cases consistent target contents with ⟨cycle, closed, refused⟩ | ⟨order, ordered, done⟩
  · rw [refused, closed]
    rfl
  · rw [done, ordered]
    rfl

/-- An edit is refused if what it enters closes a cycle, and it goes through otherwise. -/
theorem Sound.set_answer_cases (sound : sheet.Sound) (named : sheet.cellName? name = some target)
    (read : Contents.ofInput sheet.settings.naming input = .ok contents) :
    (sheet.Closes target contents ∧
      ∃ cycle, (sheet.placed target contents).graph.order target = .error cycle ∧
        (sheet.set name input).1 = .error (.circularDependency target cycle)) ∨
    (¬sheet.Closes target contents ∧ ∃ order, (sheet.set name input).1 = .ok order) := by
  have answer := set_answer sound.consistent named read
  cases ordered : (sheet.placed target contents).graph.order target with
  | error cycle =>
    rw [ordered] at answer
    exact Or.inl ⟨sound.order_refused_iff.mp ⟨cycle, ordered⟩, cycle, rfl, answer⟩
  | ok order =>
    rw [ordered] at answer
    refine Or.inr ⟨?_, order, answer⟩
    intro closes
    -- Contents that close a cycle would have no order.
    obtain ⟨cycle, refused⟩ := sound.order_refused_iff.mpr closes
    rw [ordered] at refused
    cases refused

/-- An edit goes through if what it enters closes no cycle. -/
theorem Sound.isOk_set (sound : sheet.Sound) (named : sheet.cellName? name = some target)
    (read : Contents.ofInput sheet.settings.naming input = .ok contents)
    (open_ : ¬sheet.Closes target contents) : (sheet.set name input).1.isOk = true := by
  -- An input that is read under an allowed name is only refused for a cycle.
  rcases sound.set_answer_cases named read with ⟨closes, -⟩ | ⟨-, order, through⟩
  · exact absurd closes open_
  · rw [through]
    rfl

/-- An input with a variable alone is read as the formula of that variable. -/
theorem ofInput_reference :
    Contents.ofInput .plain "=A1" = .ok (some (.formula ⟨[.reference "A1"]⟩)) := by
  -- What stands behind the sign is one variable, which the check accepts.
  have tokens : Token.ofText "A1" = [.reference "A1"] := by decide +kernel
  have formula : Formula.ofText .plain "A1" = .ok ⟨[.reference "A1"]⟩ := by
    rw [Formula.ofText_eq_ok, tokens]
    exact ⟨rfl, rfl⟩
  exact Contents.ofInput_formula rfl (by decide +kernel) formula

/-- An input that spells neither a number nor a formula is read as it stands. -/
theorem ofInput_text : Contents.ofInput .plain "x" = .ok (some (.text "x")) := by
  -- It has no sign of a formula either.
  have number : Double.read? "x" = none := by decide +kernel
  rw [Contents.ofInput, if_neg (by decide), number]
  rfl

/-- Where names stand for themselves, a cell name is one as it is given. -/
theorem Reachable.cellName?_plain (reachable : Reachable .plain sheet)
    (legal : isCellName name = true) : sheet.cellName? name = some name := by
  -- Nothing is normalized, and every legal name is accepted.
  rw [cellName?, reachable.settings_eq]
  simp [Settings.plain, Naming.plain, legal]

/-- Where names stand for themselves, they are normalized for good. -/
theorem Reachable.stable_plain (reachable : Reachable .plain sheet) :
    sheet.settings.naming.Stable := by
  -- Nothing is normalized.
  rw [reachable.settings_eq]
  exact fun _ _ => rfl

/-- A text goes through under every cell name where names stand for themselves. -/
theorem Reachable.isOk_set_text (reachable : Reachable .plain sheet)
    (legal : isCellName name = true) : (sheet.set name "x").1.isOk = true := by
  have read : Contents.ofInput sheet.settings.naming "x" = .ok (some (.text "x")) := by
    rw [reachable.settings_eq]
    exact ofInput_text
  apply reachable.sound.isOk_set (reachable.cellName?_plain legal) read
  -- A text has no variables that could close a cycle.
  intro ⟨f, formula, _⟩
  cases formula

/-- A cell depends on the variable that has been entered into it. -/
theorem edge_set_reference :
    ((Sheet.empty .plain).set "A1" "=B1").2.graph.Edge "B1" "A1" := by
  -- Dependencies mirror the variables of stored formulas.
  have sound := (Sound.empty .plain).set "A1" "=B1"
  rw [sound.mirrored, mem_referencesAt]
  exact ⟨_, _, set_reference, rfl, by decide⟩

/-- An edit of an allowed name with an input that can be read is refused as circular if it enters a
formula that refers to the edited cell or to one that depends on it, and goes through otherwise. A
refusal names the edited cell and a path that leads from it along dependents, as they would be with
the new formula, through distinct other cells and back to it. -/
theorem circular_iff (settings : Settings) (sheet : Sheet) (name input target : String)
    (contents : Option Contents) (reachable : Reachable settings sheet)
    (named : sheet.cellName? name = some target)
    (read : Contents.ofInput settings.naming input = .ok contents) :
    ((∃ cell cycle, (sheet.set name input).1 = .error (.circularDependency cell cycle)) ↔
      ∃ f, contents = some (.formula f) ∧
        ∃ v ∈ f.references, v = target ∨ TransGen sheet.graph.Edge target v) ∧
    ((∃ order, (sheet.set name input).1 = .ok order) ↔
      ¬∃ f, contents = some (.formula f) ∧
        ∃ v ∈ f.references, v = target ∨ TransGen sheet.graph.Edge target v) ∧
    ∀ cell cycle, (sheet.set name input).1 = .error (.circularDependency cell cycle) →
      cell = target ∧
      ∃ f inner, contents = some (.formula f) ∧ cycle = target :: inner ++ [target] ∧
        inner.Nodup ∧ target ∉ inner ∧
        cycle.IsChain fun a b => if b = target then a ∈ f.references else sheet.graph.Edge a b := by
  have sound := reachable.sound
  rw [← reachable.settings_eq] at read
  -- Reaching the variable is being it or leading to it by one edge at least.
  have closes_iff : sheet.Closes target contents ↔ ∃ f, contents = some (.formula f) ∧
      ∃ v ∈ f.references, v = target ∨ TransGen sheet.graph.Edge target v := by
    simp only [Closes, reflTransGen_iff_eq_or_transGen]
  rw [← closes_iff]
  rcases sound.set_answer_cases named read with
    ⟨closes, cycle, closed, refused⟩ | ⟨free, order, through⟩
  · -- The edit is refused, and the order of recalculation has shown the path.
    rw [refused]
    refine ⟨?_, ?_, ?_⟩
    · exact ⟨fun _ => closes, fun _ => ⟨target, cycle, rfl⟩⟩
    · simp [closes]
    · intro cell shown same
      cases same
      obtain ⟨f, formula, -⟩ := closes
      obtain ⟨inner, path⟩ := sound.circle_of_placed formula closed
      exact ⟨rfl, f, inner, formula, path⟩
  · -- The edit goes through, so that there is no refusal to speak of.
    rw [through]
    refine ⟨?_, ?_, ?_⟩
    · simp [free]
    · exact ⟨fun _ => free, fun _ => ⟨order, rfl⟩⟩
    · intro cell shown same
      cases same

/-- A cell cannot be made to refer to one that refers to it. -/
theorem circular_iff_reference :
    Reachable .plain ((Sheet.empty .plain).set "A1" "=B1").2 ∧
      ∃ inner, (((Sheet.empty .plain).set "A1" "=B1").2.set "B1" "=A1").1 =
        .error (.circularDependency "B1" ("B1" :: inner ++ ["B1"])) := by
  have reachable : Reachable .plain ((Sheet.empty .plain).set "A1" "=B1").2 :=
    .set "A1" "=B1" .empty
  obtain ⟨refused, -, shown⟩ := circular_iff .plain _ "B1" "=A1" "B1" _ reachable
    (reachable.cellName?_plain (by decide +kernel)) ofInput_reference
  -- The variable is a cell that depends on the edited one.
  obtain ⟨cell, cycle, answer⟩ := refused.mpr
    ⟨_, rfl, "A1", by decide, Or.inr (TransGen.single edge_set_reference)⟩
  obtain ⟨rfl, f, inner, -, rfl, -⟩ := shown cell cycle answer
  exact ⟨reachable, inner, answer⟩

end Worksheet.Sheet
