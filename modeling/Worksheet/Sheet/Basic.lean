import Worksheet.Graph.Order
import Worksheet.Sheet.Cell

/-!
A sheet stores cells by name together with the dependencies of its formulas, and every edit either
brings all values up to date or leaves the sheet as it was.
-/

namespace Worksheet

/-- How a sheet treats names, and the tag that its documents carry. -/
structure Settings where
  naming : Naming
  version : String
deriving Inhabited

/-- The tag of documents that state none. -/
def defaultVersion : String :=
  "default"

/-- Every name stands for itself and the tag is the default one. -/
def Settings.plain : Settings :=
  ⟨.plain, defaultVersion⟩

/-- Why an edit or a question about a cell is refused. -/
inductive SheetError
  | invalidName (name : String)
  | formulaFormat (error : FormatError)
  | circularDependency (cell : String) (cycle : List String)
deriving DecidableEq

/-- The words for a refusal. -/
def SheetError.message : SheetError → String
  | invalidName name => s!"Invalid cell name: {name}"
  | formulaFormat error => "Invalid formula: " ++ error.message
  | circularDependency _ cycle => "Circular dependency detected: " ++ " -> ".intercalate cycle

/-- The cells that are not empty, their dependencies, and whether there is anything to save. -/
structure Sheet where
  settings : Settings
  cells : NameMap Cell
  graph : Graph
  changed : Bool

namespace Sheet

/-- A sheet without cells. -/
def empty (settings : Settings) : Sheet :=
  ⟨settings, ∅, .empty, false⟩

instance : Inhabited Sheet := ⟨empty .plain⟩

/-- The names of the stored cells in ascending order. -/
def names (sheet : Sheet) : List String :=
  sheet.cells.keys

/-- The normalized name of a cell, if that is a cell name and allowed. -/
def cellName? (sheet : Sheet) (name : String) : Option String :=
  let normalized := sheet.settings.naming.normalize name
  if isCellName normalized && sheet.settings.naming.accepts normalized then some normalized
  else none

/-- The normalized name of a cell, or the refusal of the name as it was given. -/
def cellName (sheet : Sheet) (name : String) : Except SheetError String :=
  match sheet.cellName? name with
  | some normalized => .ok normalized
  | none => .error (.invalidName name)

/-- The stored cell that a name stands for. -/
def cell? (sheet : Sheet) (name : String) : Option Cell := do
  sheet.cells[← sheet.cellName? name]?

/-- The contents of a cell, which are an empty text where none is stored. -/
def contents (sheet : Sheet) (name : String) : Except SheetError Contents := do
  let name ← sheet.cellName name
  return (sheet.cells[name]?.map Cell.contents).getD (.text "")

/-- The value of a cell, which is an empty text where none is stored. -/
def value (sheet : Sheet) (name : String) : Except SheetError Value := do
  let name ← sheet.cellName name
  return (sheet.cells[name]?.map Cell.value).getD (.text "")

/-- The number that formulas see behind a variable, which is normalized once more. -/
def lookup (sheet : Sheet) (name : String) : Except LookupError Double :=
  match sheet.cellName? name with
  | none => .error (.invalidName (sheet.settings.naming.normalize name))
  | some name =>
    match sheet.cells[name]?.map Cell.value with
    | none => .error (.empty name)
    | some (.number value) => .ok value
    | some (.text _) => .error (.notANumber name)
    | some (.error reason) => .error (.failed name reason)

/-- The value of a formula against the cells as they are. -/
def evaluate (sheet : Sheet) (formula : Formula) : Value :=
  .ofResult (formula.evaluate sheet.lookup)

/-- Reads a formula with the sheet's names. -/
def parseFormula (sheet : Sheet) (text : String) : Except SheetError Formula :=
  (Formula.ofText sheet.settings.naming text).mapError .formulaFormat

/-- Evaluates the formula of one cell again. -/
def refresh (sheet : Sheet) (name : String) : Sheet :=
  match sheet.cells[name]?.map Cell.contents with
  | some (.formula formula) =>
    let cell := ⟨.formula formula, sheet.evaluate formula⟩
    { sheet with cells := sheet.cells.insert name cell }
  | _ => sheet

/-- Evaluates the formulas of some cells again, in the order of their names. -/
def recalculate (sheet : Sheet) (order : List String) : Sheet :=
  order.foldl refresh sheet

/-- Stores contents under a normalized name, or clears the cell, and recalculates what depends on
it. The names of all recalculated cells are returned unless a dependency would be circular. -/
def put (sheet : Sheet) (name : String) (contents : Option Contents) :
    Except SheetError (List String) × Sheet :=
  let before := (sheet.graph.dependeesOf name).toList
  let references := (contents.map Contents.references).getD []
  let graph := sheet.graph.replaceDependees name references
  match graph.order name with
  | .error cycle =>
    -- The new dependencies make way for the old ones, and nothing else has been touched.
    (.error (.circularDependency name cycle),
      { sheet with graph := graph.replaceDependees name before })
  | .ok order =>
    let cells :=
      match contents with
      | some contents => sheet.cells.insert name (.entered contents)
      | none => sheet.cells.erase name
    (.ok order, { { sheet with cells, graph }.recalculate order with changed := true })

/-- Enters a text into a cell and recalculates what depends on it. -/
def set (sheet : Sheet) (name input : String) : Except SheetError (List String) × Sheet :=
  match sheet.cellName name with
  | .error error => (.error error, sheet)
  | .ok name =>
    match Contents.ofInput sheet.settings.naming input with
    | .error error => (.error (.formulaFormat error), sheet)
    | .ok contents => sheet.put name contents

/-- Notes that everything has been saved. -/
def markSaved (sheet : Sheet) : Sheet :=
  { sheet with changed := false }

end Sheet

end Worksheet
