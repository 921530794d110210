/-! Why a formula has no value, and why a variable has no number. -/

namespace Worksheet

/-- Why a formula has no value. -/
inductive Reason
  | divisionByZero
  | malformed
  | pending
  | invalidName (name : String)
  | undefined (name : String)
  | emptyCell (name : String)
  | notANumber (name : String)
  | stated (text : String)
deriving DecidableEq

/-- The words for a reason. -/
def Reason.message : Reason → String
  | divisionByZero => "Cannot divide by zero"
  | malformed => "Malformed expression"
  | pending => "Not yet evaluated"
  | invalidName name => s!"Invalid variable name: {name}"
  | undefined name => s!"Variable {name} is undefined"
  | emptyCell name => s!"Cell {name} is empty"
  | notANumber name => s!"Cell {name} holds text, not a number"
  | stated text => text

/-- Why a variable has no number. -/
inductive LookupError
  | invalidName (name : String)
  | undefined (name : String)
  | empty (name : String)
  | notANumber (name : String)
  | failed (cell : String) (reason : Reason)
deriving DecidableEq

/-- The reason that a formula gives for a variable; a cell that has failed passes its own on. -/
def LookupError.reason : LookupError → Reason
  | invalidName name => .invalidName name
  | undefined name => .undefined name
  | empty name => .emptyCell name
  | notANumber name => .notANumber name
  | failed _ reason => reason

end Worksheet
