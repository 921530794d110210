import Worksheet.Proofs.Graph.Acyclic
import Worksheet.Proofs.Naming
import Worksheet.Proofs.Sheet.Contents
import Worksheet.Sheet.Basic

/-!
What a sheet keeps through all its edits: the dependencies are those of the stored formulas and free
of cycles, and whatever is stored could have been entered under an allowed cell name.
-/

namespace Worksheet.Sheet

variable {sheet other : Sheet} {name input : String} {contents : Option Contents}
  {order : List String}

/-- The contents stored under a normalized name. -/
def stored? (sheet : Sheet) (name : String) : Option Contents :=
  sheet.cells[name]?.map Cell.contents

/-- The variables of the formula stored under a normalized name, none where there is no formula. -/
def referencesAt (sheet : Sheet) (name : String) : List String :=
  ((sheet.stored? name).map Contents.references).getD []

/-- A sheet with contents put under a name, or with the name cleared, before any recalculation. -/
def placed (sheet : Sheet) (name : String) (contents : Option Contents) : Sheet :=
  { sheet with
    cells :=
      match contents with
      | some contents => sheet.cells.insert name (.entered contents)
      | none => sheet.cells.erase name
    graph := sheet.graph.replaceDependees name ((contents.map Contents.references).getD []) }

/-- A stored cell has its contents stored. -/
theorem stored?_of_found {cell : Cell} (found : sheet.cells[name]? = some cell) :
    sheet.stored? name = some cell.contents := by
  rw [stored?, found, Option.map_some]

/-- Contents that are entered are held as they are. -/
@[simp] theorem contents_entered (contents : Contents) :
    (Cell.entered contents).contents = contents := by
  cases contents <;> rfl

/-- Placing stores the new contents under their name and nothing else. -/
theorem getElem?_placed (key : String) : (sheet.placed name contents).cells[key]? =
    if name = key then contents.map Cell.entered else sheet.cells[key]? := by
  -- Contents are inserted under the name, and without any the cell there is erased.
  cases contents with
  | none => simp [placed, Std.ExtTreeMap.getElem?_erase]
  | some contents => simp [placed, Std.ExtTreeMap.getElem?_insert]

/-- Placed contents are held as they are. -/
theorem stored?_placed (key : String) : (sheet.placed name contents).stored? key =
    if name = key then contents else sheet.stored? key := by
  -- A cell that is entered holds what is entered.
  rw [stored?, getElem?_placed]
  split
  · cases contents <;> simp
  · rfl

/-- Refreshing a formula gives its cell the value that the formula has now. -/
theorem refresh_formula {f : Formula} (holds : sheet.stored? name = some (.formula f)) :
    sheet.refresh name =
      { sheet with cells := sheet.cells.insert name ⟨.formula f, sheet.evaluate f⟩ } := by
  -- The formula is evaluated on the sheet as it is.
  rw [stored?] at holds
  simp only [refresh, holds]

/-- Refreshing a cell that holds no formula does nothing. -/
theorem refresh_of_no_formula (none : ∀ f, sheet.stored? name ≠ some (.formula f)) :
    sheet.refresh name = sheet := by
  -- Only a formula is evaluated again.
  unfold refresh
  split
  · rename_i f holds
    exact absurd holds (none f)
  · rfl

/-- Refreshing a cell changes no other one. -/
theorem getElem?_refresh {key : String} (different : name ≠ key) :
    (sheet.refresh name).cells[key]? = sheet.cells[key]? := by
  -- Only the entry of the name is written.
  unfold refresh
  split
  · simp [Std.ExtTreeMap.getElem?_insert, different]
  · rfl

/-- Refreshing a cell changes no contents. -/
theorem stored?_refresh (key : String) : (sheet.refresh name).stored? key = sheet.stored? key := by
  -- The entry of the name is written with the contents that it had.
  by_cases same : name = key
  · subst same
    unfold refresh
    split
    · rename_i f holds
      simp only [stored?, Std.ExtTreeMap.getElem?_insert_self, holds, Option.map_some]
    · rfl
  · rw [stored?, getElem?_refresh same, stored?]

/-- Refreshing a cell leaves the settings alone. -/
@[simp] theorem refresh_settings : (sheet.refresh name).settings = sheet.settings := by
  -- At most one cell is written.
  unfold refresh
  split <;> rfl

/-- Refreshing a cell leaves the dependencies alone. -/
@[simp] theorem refresh_graph : (sheet.refresh name).graph = sheet.graph := by
  -- At most one cell is written.
  unfold refresh
  split <;> rfl

/-- A recalculation changes values only. -/
theorem recalculate_frame (sheet : Sheet) (order : List String) :
    (sheet.recalculate order).settings = sheet.settings ∧
      (sheet.recalculate order).graph = sheet.graph ∧
        ∀ key, (sheet.recalculate order).stored? key = sheet.stored? key := by
  -- Each refreshed cell leaves the same frame to the next one.
  induction order generalizing sheet with
  | nil => exact ⟨rfl, rfl, fun _ => rfl⟩
  | cons name rest ih =>
    obtain ⟨settings, graph, stored⟩ := ih (sheet.refresh name)
    refine ⟨settings.trans refresh_settings, graph.trans refresh_graph, fun key => ?_⟩
    exact (stored key).trans (stored?_refresh key)

/-- Contents are put in place and recalculated from, or the sheet is left as it was. -/
theorem put_cases (consistent : sheet.graph.Consistent) (name : String)
    (contents : Option Contents) :
    (∃ cycle, (sheet.placed name contents).graph.order name = .error cycle ∧
      sheet.put name contents = (.error (.circularDependency name cycle), sheet)) ∨
    ∃ order, (sheet.placed name contents).graph.order name = .ok order ∧
      sheet.put name contents =
        (.ok order, { (sheet.placed name contents).recalculate order with changed := true }) := by
  cases ordered : (sheet.placed name contents).graph.order name with
  | error cycle =>
    -- What was replaced in the graph is put back.
    refine Or.inl ⟨cycle, rfl, ?_⟩
    simp only [placed] at ordered
    simp only [put, ordered, consistent.replaceDependees_restore]
  | ok order =>
    refine Or.inr ⟨order, rfl, ?_⟩
    simp only [placed] at ordered
    simp only [put, ordered]
    cases contents <;> rfl

/-- The name that a text stands for is its normalization, which is a cell name that is allowed. -/
theorem cellName?_eq_some (named : sheet.cellName? input = some name) :
    name = sheet.settings.naming.normalize input ∧ isCellName name = true ∧
      sheet.settings.naming.accepts name = true := by
  -- The name is tested after it is normalized.
  simp only [cellName?] at named
  split at named
  · rename_i accepted
    cases named
    exact ⟨rfl, by simpa using accepted⟩
  · simp at named

/-- An edit under an allowed name puts what is read from the input in its cell. -/
theorem set_eq_put {target : String} (named : sheet.cellName? name = some target)
    (read : Contents.ofInput sheet.settings.naming input = .ok contents) :
    sheet.set name input = sheet.put target contents := by
  -- Neither the name nor the input is refused.
  unfold set cellName
  rw [named]
  dsimp only
  rw [read]

/-- An edit under an allowed name is refused if its input cannot be read. -/
theorem set_of_unread {target : String} {error : FormatError}
    (named : sheet.cellName? name = some target)
    (unread : Contents.ofInput sheet.settings.naming input = .error error) :
    sheet.set name input = (.error (.formulaFormat error), sheet) := by
  -- The input is read behind the name and before anything is stored.
  unfold set cellName
  rw [named]
  dsimp only
  rw [unread]

/-- An edit puts what is read from the input in place and recalculates from it, or it is refused and
leaves the sheet as it was. -/
theorem set_cases (consistent : sheet.graph.Consistent) (name input : String) :
    (∃ error, sheet.set name input = (.error error, sheet)) ∨
    ∃ target contents order, sheet.cellName? name = some target ∧
      Contents.ofInput sheet.settings.naming input = .ok contents ∧
      (sheet.placed target contents).graph.order target = .ok order ∧
      sheet.set name input =
        (.ok order, { (sheet.placed target contents).recalculate order with changed := true }) := by
  -- The name, the input and the new dependencies are each looked at before anything is stored.
  cases named : sheet.cellName? name with
  | none =>
    refine Or.inl ⟨.invalidName name, ?_⟩
    unfold set cellName
    rw [named]
  | some target =>
    cases read : Contents.ofInput sheet.settings.naming input with
    | error error => exact Or.inl ⟨_, set_of_unread named read⟩
    | ok contents =>
      -- What is left is the order of recalculation, which may show a cycle.
      rw [set_eq_put named read]
      rcases put_cases consistent target contents with ⟨cycle, -, refused⟩ | ⟨order, ordered, done⟩
      · exact Or.inl ⟨_, refused⟩
      · exact Or.inr ⟨target, contents, order, rfl, rfl, ordered, done⟩

/-- What every edit of a sheet preserves. -/
structure Sound (sheet : Sheet) : Prop where
  consistent : sheet.graph.Consistent
  mirrored : ∀ s t, sheet.graph.Edge s t ↔ s ∈ sheet.referencesAt t
  acyclic : sheet.graph.Acyclic
  named : ∀ name contents, sheet.stored? name = some contents →
    isCellName name = true ∧ sheet.settings.naming.accepts name = true
  entered : ∀ name contents, sheet.stored? name = some contents →
    contents.Entered sheet.settings.naming

/-- A sheet without cells is sound. -/
theorem Sound.empty (settings : Settings) : (empty settings).Sound := by
  -- There are neither cells nor dependencies.
  have none : ∀ name, (Sheet.empty settings).stored? name = none := by
    simp [stored?, Sheet.empty]
  refine ⟨.empty, ?_, .empty, ?_, ?_⟩
  · intro s t
    simp only [referencesAt, none, Option.map_none, Option.getD_none, List.not_mem_nil, iff_false]
    simp [Sheet.empty, Graph.Edge, Graph.empty, Graph.dependentsOf, Graph.neighbours]
  · simp [none]
  · simp [none]

/-- A sheet is sound if one with the same settings, dependencies and contents is. -/
theorem Sound.transfer (sound : sheet.Sound) (settings : other.settings = sheet.settings)
    (graph : other.graph = sheet.graph) (stored : ∀ key, other.stored? key = sheet.stored? key) :
    other.Sound := by
  -- Soundness never looks at values.
  obtain ⟨consistent, mirrored, acyclic, named, entered⟩ := sound
  refine ⟨?_, ?_, ?_, ?_, ?_⟩
  · rwa [graph]
  · simpa only [graph, referencesAt, stored] using mirrored
  · rwa [graph]
  · simpa only [settings, stored] using named
  · simpa only [settings, stored] using entered

/-- Contents read from an input can be placed under a cell name wherever that closes no cycle. -/
theorem Sound.placed {text : String} (sound : sheet.Sound)
    (named : sheet.cellName? input = some name)
    (read : Contents.ofInput sheet.settings.naming text = .ok contents)
    (ordered : (sheet.placed name contents).graph.order name = .ok order) :
    (sheet.placed name contents).Sound := by
  -- Only one name has new contents, and it is allowed, as its contents are by how they were read.
  have legal := (cellName?_eq_some named).2
  have acyclic := sound.acyclic.replaceDependees sound.consistent ordered
  refine ⟨sound.consistent.replaceDependees, ?_, acyclic, ?_, ?_⟩
  · intro s t
    -- The pairs that end in the name are those of the new contents, all others are the old ones.
    have edges : (sheet.placed name contents).graph.Edge s t ↔
        (sheet.graph.Edge s t ∧ t ≠ name) ∨
          (s ∈ (contents.map Contents.references).getD [] ∧ t = name) :=
      sound.consistent.edge_replaceDependees
    rw [edges, sound.mirrored, referencesAt, referencesAt, stored?_placed]
    by_cases same : name = t
    · simp [same]
    · simp [same, Ne.symm same]
  · -- The new contents stand under a legal name.
    intro key value holds
    rw [stored?_placed] at holds
    split at holds
    · rename_i same
      exact same ▸ legal
    · exact sound.named key value holds
  · -- The new contents are what was read.
    intro key value holds
    rw [stored?_placed] at holds
    split at holds
    · exact Contents.entered_of_ofInput (holds ▸ read)
    · exact sound.entered key value holds

/-- A sheet is as sound as before once an edit is through or refused. -/
theorem Sound.set (sound : sheet.Sound) (name input : String) : (sheet.set name input).2.Sound := by
  rcases set_cases sound.consistent name input with
    ⟨error, refused⟩ | ⟨target, contents, order, named, read, ordered, done⟩
  · rw [refused]
    exact sound
  · -- The recalculation changes nothing that soundness looks at.
    obtain ⟨settings, graph, stored⟩ := recalculate_frame (sheet.placed target contents) order
    rw [done]
    exact (sound.placed named read ordered).transfer settings graph stored

/-- The sheets that lie on the way from one without cells through edits and saves. -/
inductive Reachable (settings : Settings) : Sheet → Prop
  | empty : Reachable settings (empty settings)
  | set {sheet : Sheet} (name input : String) (before : Reachable settings sheet) :
    Reachable settings (sheet.set name input).2
  | markSaved {sheet : Sheet} (before : Reachable settings sheet) :
    Reachable settings sheet.markSaved

variable {settings : Settings}

/-- Every reachable sheet is sound. -/
theorem Reachable.sound (reachable : Reachable settings sheet) : sheet.Sound := by
  -- An edit keeps a sheet sound, and a save touches nothing but the mark that something has changed.
  induction reachable with
  | empty => exact Sound.empty settings
  | set name input _ ih => exact ih.set name input
  | markSaved _ ih => exact ih.transfer rfl rfl fun _ => rfl

/-- An edit leaves the settings alone. -/
theorem set_settings (consistent : sheet.graph.Consistent) (name input : String) :
    (sheet.set name input).2.settings = sheet.settings := by
  -- A refused edit leaves the sheet as it is, and any other one recalculates what has been placed.
  rcases set_cases consistent name input with
    ⟨error, refused⟩ | ⟨target, contents, order, -, -, -, done⟩
  · rw [refused]
  · rw [done]
    exact (recalculate_frame (sheet.placed target contents) order).1

/-- A reachable sheet has the settings it began with. -/
theorem Reachable.settings_eq (reachable : Reachable settings sheet) :
    sheet.settings = settings := by
  -- No edit and no save touches the settings.
  induction reachable with
  | empty => rfl
  | set name input before ih => rw [set_settings before.sound.consistent, ih]
  | markSaved _ ih => exact ih

/-- A name refers to a variable if the cell under it holds a formula that has the variable. -/
theorem mem_referencesAt {v : String} :
    v ∈ sheet.referencesAt name ↔ ∃ cell f, sheet.cells[name]? = some cell ∧
      cell.contents = .formula f ∧ v ∈ f.references := by
  -- A cell that is missing or holds no formula has no variables.
  unfold referencesAt stored?
  cases found : sheet.cells[name]? with
  | none => simp
  | some cell =>
    cases holds : cell.contents <;> simp [holds, Contents.references]

/-- On every reachable sheet the dependencies are exactly those of the stored formulas and have no
cycle, every stored name is a cell name that is allowed, no stored text is empty and every number in
stored contents is finite. -/
theorem structure_of_reachable (settings : Settings) (sheet : Sheet)
    (reachable : Reachable settings sheet) :
    (∀ v c,
      ((v, c) ∈ sheet.graph.pairs ↔ ∃ cell f, sheet.cells[c]? = some cell ∧
        cell.contents = .formula f ∧ v ∈ f.references) ∧
      (v ∈ sheet.graph.dependeesOf c ↔ (v, c) ∈ sheet.graph.pairs) ∧
      (c ∈ sheet.graph.dependentsOf v ↔ (v, c) ∈ sheet.graph.pairs)) ∧
    (∀ name, ¬Relation.TransGen (fun s t => (s, t) ∈ sheet.graph.pairs) name name) ∧
    (∀ name cell, sheet.cells[name]? = some cell →
      (∃ letters digits, name.toList = letters ++ digits ∧ letters ≠ [] ∧ digits ≠ [] ∧
        (∀ c ∈ letters, c.isAlpha = true) ∧ ∀ c ∈ digits, c.isDigit = true) ∧
      settings.naming.accepts name = true) ∧
    ∀ (name : String) (cell : Cell), sheet.cells[name]? = some cell →
      cell.contents ≠ .text "" ∧
      (∀ x, cell.contents = .number x → x.isFinite = true) ∧
      ∀ f, cell.contents = .formula f → ∀ x, .number x ∈ f.tokens → x.isFinite = true := by
  -- Each part is read off the invariant of all edits.
  have sound := reachable.sound
  refine ⟨fun v c => ⟨?_, ?_, ?_⟩, ?_, ?_, ?_⟩
  · -- The pairs are the variables of the stored formulas.
    rw [Graph.mem_pairs, sound.mirrored, mem_referencesAt]
  · rw [Graph.mem_pairs]
    exact sound.consistent.mirrored v c
  · rw [Graph.mem_pairs]
    rfl
  · simp only [Graph.mem_pairs]
    exact sound.acyclic
  · -- A stored name is legal and accepted.
    intro name cell found
    obtain ⟨cellName, accepted⟩ := sound.named name cell.contents (stored?_of_found found)
    exact ⟨spelling_of_isCellName cellName, reachable.settings_eq ▸ accepted⟩
  · -- Contents were read from some input, so that they are not empty and their numbers are finite.
    intro name cell found
    have entered := sound.entered name cell.contents (stored?_of_found found)
    refine ⟨?_, ?_, ?_⟩
    · intro empty
      rw [empty] at entered
      cases entered with
      | text nonempty => exact nonempty rfl
    · intro x number
      rw [number] at entered
      cases entered with
      | number finite => exact finite
    · intro f formula x member
      rw [formula] at entered
      cases entered with
      | formula read => exact Formula.finite_of_ofText read member

/-- A variable entered as a formula into a sheet without cells is stored and has no value. -/
theorem set_reference : ((Sheet.empty .plain).set "A1" "=B1").2.cells["A1"]? =
    some ⟨.formula ⟨[.reference "B1"]⟩, .error (.emptyCell "B1")⟩ := by
  -- The input is read as one variable.
  have formula : Formula.ofText .plain "B1" = .ok ⟨[.reference "B1"]⟩ := by
    have tokens : Token.ofText "B1" = [.reference "B1"] := by decide +kernel
    rw [Formula.ofText_eq_ok, tokens]
    exact ⟨rfl, rfl⟩
  have read : Contents.ofInput .plain "=B1" = .ok (some (.formula ⟨[.reference "B1"]⟩)) :=
    Contents.ofInput_formula rfl (by decide +kernel) formula
  have named : (Sheet.empty .plain).cellName? "A1" = some "A1" := by decide +kernel
  rw [set_eq_put named read]
  -- Nothing depends on the cell, so that it is recalculated alone.
  have ordered : ((Sheet.empty .plain).placed "A1"
      (some (.formula ⟨[.reference "B1"]⟩))).graph.order "A1" = .ok ["A1"] :=
    Graph.order_of_no_dependents (by decide +kernel)
  -- The edit goes through, and what it leaves is computed.
  have cases := put_cases (Sound.empty .plain).consistent "A1"
    (some (.formula ⟨[.reference "B1"]⟩))
  rcases cases with ⟨cycle, refused, -⟩ | ⟨order, same, done⟩
  · rw [ordered] at refused
    cases refused
  · rw [ordered] at same
    cases same
    rw [done]
    decide +kernel

/-- The variable of a formula that has been entered is what its cell depends on. -/
theorem structure_of_reachable_reference :
    Reachable .plain ((Sheet.empty .plain).set "A1" "=B1").2 ∧
      ("B1", "A1") ∈ ((Sheet.empty .plain).set "A1" "=B1").2.graph.pairs := by
  have reachable : Reachable .plain ((Sheet.empty .plain).set "A1" "=B1").2 :=
    .set "A1" "=B1" .empty
  refine ⟨reachable, ?_⟩
  -- A pair is stored wherever a formula has a variable.
  have mirrored := ((structure_of_reachable .plain _ reachable).1 "B1" "A1").1
  exact mirrored.mpr ⟨_, ⟨[.reference "B1"]⟩, set_reference, rfl, by decide⟩

end Worksheet.Sheet
