import Worksheet.Formula.Reason
import Worksheet.Formula.Token

/-!
Evaluation of tokens over any arithmetic, with one stack of values and one of operators and
parentheses that wait for their operands.
-/

namespace Worksheet

/-- Numbers that formulas can be evaluated over. -/
class Arithmetic (ν : Type) where
  add : ν → ν → ν
  sub : ν → ν → ν
  mul : ν → ν → ν
  div : ν → ν → ν
  isZero : ν → Bool

instance : Arithmetic Double where
  add := Double.add
  sub := Double.sub
  mul := Double.mul
  div := Double.div
  isZero := Double.isZero

variable {ν : Type} [Arithmetic ν]

/-- The value of an operator for two operands, which division refuses for a right one of zero. -/
def Operator.apply (left right : ν) : Operator → Except Reason ν
  | add => .ok (Arithmetic.add left right)
  | sub => .ok (Arithmetic.sub left right)
  | mul => .ok (Arithmetic.mul left right)
  | div =>
    if Arithmetic.isZero right then .error .divisionByZero
    else .ok (Arithmetic.div left right)

/-- An operator or an open parenthesis whose right operand is not complete. -/
inductive Pending
  | operator (op : Operator)
  | leftParen
deriving DecidableEq

/-- The state of an evaluation, the tops of both stacks in front. -/
structure Stacks (ν : Type) where
  values : List ν
  pending : List Pending

namespace Stacks

omit [Arithmetic ν] in
/-- Nothing evaluated and nothing pending. -/
def empty : Stacks ν :=
  ⟨[], []⟩

/-- Applies an operator to the two values on top. -/
def fold (op : Operator) (values : List ν) (pending : List Pending) : Except Reason (Stacks ν) :=
  match values with
  | right :: left :: below => do
    let value ← op.apply left right
    return ⟨value :: below, pending⟩
  | _ => .error .malformed

/-- Applies the operator on top if it is of the given strength. -/
def foldIf (additive : Bool) (state : Stacks ν) : Except Reason (Stacks ν) :=
  match state.pending with
  | .operator op :: below =>
    if op.isAdditive = additive then fold op state.values below else .ok state
  | _ => .ok state

/-- Takes a complete operand, to which a multiplication or division that waits is applied. -/
def pushOperand (value : ν) (state : Stacks ν) : Except Reason (Stacks ν) :=
  foldIf false ⟨value :: state.values, state.pending⟩

/-- Takes one token. -/
def step (lookup : String → Except LookupError ν) (state : Stacks ν) :
    Token ν → Except Reason (Stacks ν)
  | .number value => state.pushOperand value
  | .reference name =>
    match lookup name with
    | .ok value => state.pushOperand value
    | .error error => .error error.reason
  | .operator op =>
    if op.isAdditive then do
      -- Whatever is added to the left of an addition is complete.
      let folded ← state.foldIf true
      return ⟨folded.values, .operator op :: folded.pending⟩
    else .ok ⟨state.values, .operator op :: state.pending⟩
  | .leftParen => .ok ⟨state.values, .leftParen :: state.pending⟩
  | .rightParen => do
    -- The parenthesis is complete, and so is what it is a factor of.
    let folded ← state.foldIf true
    match folded.pending with
    | .leftParen :: below => foldIf false ⟨folded.values, below⟩
    | _ => .error .malformed
  | .invalid _ => .error .malformed

/-- The one value that is left once the last operator is applied. -/
def result (state : Stacks ν) : Except Reason ν := do
  let folded ←
    match state.pending with
    | [] => .ok state
    | .operator op :: below => fold op state.values below
    | .leftParen :: _ => .error .malformed
  match folded.values, folded.pending with
  | [value], [] => .ok value
  | _, _ => .error .malformed

end Stacks

/-- The value of a token sequence, given the numbers of its variables. -/
def Token.evaluate (lookup : String → Except LookupError ν) (tokens : List (Token ν)) :
    Except Reason ν := do
  let state ← tokens.foldlM (Stacks.step lookup) Stacks.empty
  state.result

end Worksheet
