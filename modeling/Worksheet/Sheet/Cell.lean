import Worksheet.Formula.Basic

/-! What a cell holds, what it is worth, and how both are entered and shown. -/

namespace Worksheet

/-- What the user entered into a cell. -/
inductive Contents
  | number (value : Double)
  | text (value : String)
  | formula (value : Formula)
deriving DecidableEq

namespace Contents

/-- Reads what the user enters, which is nothing when it is empty. -/
def ofInput (naming : Naming) (input : String) : Except FormatError (Option Contents) :=
  -- Numbers come first, then formulas behind their sign, and all else is text as it stands.
  if input.isEmpty then .ok none
  else
    match Double.read? input with
    | some value => .ok (some (number value))
    | none =>
      match input.toList with
      | '=' :: rest => do
        let value ← Formula.ofText naming (String.ofList rest)
        return some (formula value)
      | _ => .ok (some (text input))

/-- The text that gives the same contents when it is entered. -/
def input : Contents → String
  | number value => value.text
  | text value => value
  | formula value => "=" ++ value.canonical

/-- The variables that the contents refer to. -/
def references : Contents → List String
  | formula value => value.references
  | _ => []

end Contents

/-- What a cell is worth. -/
inductive Value
  | number (value : Double)
  | text (value : String)
  | error (reason : Reason)
deriving DecidableEq

namespace Value

/-- The value of an evaluation. -/
def ofResult : Except Reason Double → Value
  | .ok value => number value
  | .error reason => error reason

/-- The text that a cell with this value shows. -/
def display : Value → String
  | number value => value.display
  | text value => value
  | error reason => "#ERR: " ++ reason.message

/-- The number of a value that is one. -/
def number? : Value → Option Double
  | number value => some value
  | _ => none

/-- Whether a value is an error. -/
def isError : Value → Bool
  | error _ => true
  | _ => false

end Value

/-- A stored cell. -/
structure Cell where
  contents : Contents
  value : Value
deriving DecidableEq

/-- A cell as it is entered: a number or a text is its own value, and a formula has none yet. -/
def Cell.entered (contents : Contents) : Cell :=
  match contents with
  | .number value => ⟨contents, .number value⟩
  | .text value => ⟨contents, .text value⟩
  | .formula _ => ⟨contents, .error .pending⟩

end Worksheet
