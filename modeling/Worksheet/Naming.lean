import Worksheet.Text.LetterCase

/-!
Names of cells and variables: which spellings are names, and how a sheet normalizes and accepts them.
-/

namespace Worksheet

/-- Whether a text is letters and then digits, both present and ASCII. -/
def isCellName (name : String) : Bool :=
  let letters := name.toList.takeWhile Char.isAlpha
  let digits := name.toList.dropWhile Char.isAlpha
  letters ≠ [] && digits ≠ [] && digits.all Char.isDigit

/-- Whether a character may begin a variable. -/
def isVariableStart (c : Char) : Bool :=
  c.isAlpha || c = '_'

/-- Whether a character may continue a variable. -/
def isVariableChar (c : Char) : Bool :=
  c.isAlphanum || c = '_'

/-- Whether a text is a variable as formulas spell them. -/
def isVariable (name : String) : Bool :=
  match name.toList with
  | [] => false
  | c :: rest => isVariableStart c && rest.all isVariableChar

/-- How a sheet treats names: the canonical spelling of each and which canonical ones it allows. -/
structure Naming where
  normalize : String → String
  accepts : String → Bool

/-- Every name stands for itself and is allowed. -/
def Naming.plain : Naming :=
  ⟨id, fun _ => true⟩

instance : Inhabited Naming := ⟨.plain⟩

/-- The letter case that a sheet gives to names. -/
inductive NameCase
  | preserve
  | upper
  | lower
deriving DecidableEq, Inhabited

/-- The spelling of a name in a letter case. -/
def NameCase.apply : NameCase → String → String
  | .preserve, name => name
  | .upper, name => Text.toUpper name
  | .lower, name => Text.toLower name

/-- Names are put into one letter case and all are allowed. -/
def NameCase.naming (nameCase : NameCase) : Naming :=
  ⟨nameCase.apply, fun _ => true⟩

end Worksheet
