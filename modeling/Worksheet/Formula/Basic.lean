import Worksheet.Formula.Check
import Worksheet.Formula.Evaluation
import Worksheet.Formula.Piece

/-! A formula is a checked run of tokens, and its canonical text decides which formulas are equal. -/

namespace Worksheet

/-- The tokens of an accepted formula, its variables normalized. -/
structure Formula where
  tokens : List (Token Double)
deriving DecidableEq

namespace Formula

/-- Whether a variable, as it is written, normalizes to one that is still a variable and allowed. -/
def acceptsVariable (naming : Naming) (name : String) : Bool :=
  isVariable (naming.normalize name) && naming.accepts (naming.normalize name)

/-- Reads a formula, without the sign that sets formulas apart in a cell. -/
def ofText (naming : Naming) (text : String) : Except FormatError Formula := do
  let tokens := Token.ofText text
  Token.check (acceptsVariable naming) tokens
  return ⟨tokens.map (Token.mapReference naming.normalize)⟩

/-- The canonical text: no blanks, normalized variables and the shortest numbers. -/
def canonical (f : Formula) : String :=
  Token.render f.tokens

/-- Whether two formulas have one canonical text. -/
def same (f g : Formula) : Bool :=
  f.canonical == g.canonical

instance : Hashable Formula :=
  ⟨fun f => hash f.canonical⟩

/-- The variables, each once, in order of first occurrence. -/
def references (f : Formula) : List String :=
  (f.tokens.filterMap Token.reference?).eraseDups

/-- The value, given the numbers of the variables. -/
def evaluate (f : Formula) (lookup : String → Except LookupError Double) : Except Reason Double :=
  Token.evaluate lookup f.tokens

end Formula

end Worksheet
