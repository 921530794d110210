/-! The rules that a formula's text can break. -/

namespace Worksheet

/-- The first rule that a formula's text breaks. -/
inductive FormatError
  | empty
  | leadingOperator
  | trailingOperator
  | operatorAfterOpenParen
  | emptyParentheses
  | unmatchedCloseParen
  | invalidAfterCloseParen
  | consecutiveOperators
  | invalidAfterNumber
  | invalidAfterVariable
  | invalidToken (text : String)
  | invalidVariable (name : String)
  | unbalancedParentheses (opened closed : Nat)
deriving DecidableEq

/-- The words for a broken rule. -/
def FormatError.message : FormatError → String
  | empty => "Formula is empty"
  | leadingOperator => "Formula may not start with an operator"
  | trailingOperator => "Formula may not end with an operator"
  | operatorAfterOpenParen => "An opening parenthesis may not be followed by an operator"
  | emptyParentheses => "Empty parentheses"
  | unmatchedCloseParen => "Closing parenthesis without a matching opening parenthesis"
  | invalidAfterCloseParen =>
    "A closing parenthesis must be followed by another closing parenthesis or an operator"
  | consecutiveOperators => "Two operators in a row"
  | invalidAfterNumber => "A number must be followed by a closing parenthesis or an operator"
  | invalidAfterVariable => "A variable must be followed by a closing parenthesis or an operator"
  | invalidToken text => s!"Invalid token in formula: {text}"
  | invalidVariable name => s!"Invalid variable in formula: {name}"
  | unbalancedParentheses opened closed =>
    s!"Unbalanced parentheses: {opened} opening, {closed} closing"

end Worksheet
