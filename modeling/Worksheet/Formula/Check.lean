import Worksheet.Formula.FormatError
import Worksheet.Formula.Token

/-!
The rules for the tokens of a formula: what may begin it, end it and follow each token, and that the
parentheses match.
-/

namespace Worksheet.Token

variable {ν : Type}

/-- Whether an operand or a closing parenthesis may stand before the next token, if there is one. -/
def mayFollowOperand : Option (Token ν) → Bool
  | none | some rightParen | some (operator _) => true
  | _ => false

/-- The rule that a token breaks together with the one after it, given the parentheses before it. -/
def broken? (accepts : String → Bool) (opened closed : Nat) (next : Option (Token ν)) :
    Token ν → Option FormatError
  | leftParen =>
    match next with
    | some (operator _) => some .operatorAfterOpenParen
    | some rightParen => some .emptyParentheses
    | _ => none
  | rightParen =>
    if opened ≤ closed then some .unmatchedCloseParen
    else if mayFollowOperand next then none
    else some .invalidAfterCloseParen
  | operator _ => if next.any isOperator then some .consecutiveOperators else none
  | number _ => if mayFollowOperand next then none else some .invalidAfterNumber
  | reference name =>
    if !accepts name then some (.invalidVariable name)
    else if mayFollowOperand next then none
    else some .invalidAfterVariable
  | invalid text => some (.invalidToken text)

/-- Checks the tokens in order, counting the parentheses of either kind that are behind. -/
def checkFrom (accepts : String → Bool) (opened closed : Nat) :
    List (Token ν) → Except FormatError Unit
  | [] => if opened = closed then .ok () else .error (.unbalancedParentheses opened closed)
  | token :: rest =>
    match token.broken? accepts opened closed rest.head? with
    | some error => .error error
    | none =>
      match token with
      | leftParen => checkFrom accepts (opened + 1) closed rest
      | rightParen => checkFrom accepts opened (closed + 1) rest
      | _ => checkFrom accepts opened closed rest

/-- Checks the tokens of a formula, given which variables are accepted as they are written. -/
def check (accepts : String → Bool) (tokens : List (Token ν)) : Except FormatError Unit :=
  -- Invalid tokens anywhere and operators at either end come before every rule inside.
  match tokens.head?, tokens.getLast? with
  | some first, some last =>
    match tokens.findSome? invalid? with
    | some text => .error (.invalidToken text)
    | none =>
      if first.isOperator then .error .leadingOperator
      else if last.isOperator then .error .trailingOperator
      else checkFrom accepts 0 0 tokens
  | _, _ => .error .empty

end Worksheet.Token
