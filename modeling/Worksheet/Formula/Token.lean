import Worksheet.Number.Shortest

/-! The tokens of a formula, over any type of numbers, and the text that tokens are written as. -/

namespace Worksheet

/-- The four binary operators. -/
inductive Operator
  | add
  | sub
  | mul
  | div
deriving DecidableEq

namespace Operator

/-- The sign of an operator. -/
def symbol : Operator → Char
  | add => '+'
  | sub => '-'
  | mul => '*'
  | div => '/'

/-- The operator with a sign. -/
def ofSymbol? : Char → Option Operator
  | '+' => some add
  | '-' => some sub
  | '*' => some mul
  | '/' => some div
  | _ => none

/-- Whether an operator binds looser than the others. -/
def isAdditive : Operator → Bool
  | add | sub => true
  | mul | div => false

end Operator

/-- One token of a formula, its numbers of a given type. -/
inductive Token (ν : Type)
  | leftParen
  | rightParen
  | operator (op : Operator)
  | number (value : ν)
  | reference (name : String)
  | invalid (text : String)
deriving DecidableEq

namespace Token

/-- Whether a token is an operator. -/
def isOperator {ν : Type} : Token ν → Bool
  | operator _ => true
  | _ => false

/-- The text of an invalid token. -/
def invalid? {ν : Type} : Token ν → Option String
  | invalid text => some text
  | _ => none

/-- The variable that a token refers to. -/
def reference? {ν : Type} : Token ν → Option String
  | reference name => some name
  | _ => none

/-- Changes the spelling of a variable and leaves every other token alone. -/
def mapReference {ν : Type} (f : String → String) : Token ν → Token ν
  | reference name => reference (f name)
  | token => token

/-- The text of one token, a number in its shortest form. -/
def text : Token Double → String
  | leftParen => "("
  | rightParen => ")"
  | operator op => op.symbol.toString
  | number value => value.text
  | reference name => name
  | invalid text => text

/-- The text of a run of tokens, nothing between them. -/
def render (tokens : List (Token Double)) : String :=
  String.join (tokens.map text)

end Token

end Worksheet
