import Worksheet.Proofs.Formula.Check
import Worksheet.Proofs.Steps

/-!
The evaluation of checked tokens gives the value of the expression they are, and refuses them if they
are none.
-/

namespace Worksheet

variable {ν : Type} [Arithmetic ν] {lookup : String → Except LookupError ν}

/-- An operator between two operands that are evaluated from the left. -/
def Operator.between (op : Operator) (x y : Except Reason ν) : Except Reason ν := do
  let a ← x
  let b ← y
  op.apply a b

/-- The value of a sum is what the operator of its sign gives. -/
theorem Expression.value_add (left : Expression ν) (right : Term ν) :
    (add left right).value lookup = Operator.add.between (left.value lookup) (right.value lookup) :=
  rfl

/-- The value of a difference is what the operator of its sign gives. -/
theorem Expression.value_sub (left : Expression ν) (right : Term ν) :
    (sub left right).value lookup = Operator.sub.between (left.value lookup) (right.value lookup) :=
  rfl

/-- The value of a product is what the operator of its sign gives. -/
theorem Term.value_mul (left : Term ν) (right : Factor ν) :
    (mul left right).value lookup = Operator.mul.between (left.value lookup) (right.value lookup) :=
  rfl

/-- The value of a quotient is what the operator of its sign gives. -/
theorem Term.value_div (left : Term ν) (right : Factor ν) :
    (div left right).value lookup = Operator.div.between (left.value lookup) (right.value lookup) :=
  rfl

namespace Stacks

variable {values : List ν} {pending : List Pending} {state after : Stacks ν}
  {tokens left rest : List (Token ν)}

/-- The state behind a run of tokens. -/
def run (lookup : String → Except LookupError ν) (tokens : List (Token ν)) (state : Stacks ν) :
    Except Reason (Stacks ν) :=
  tokens.foldlM (step lookup) state

/-- Nothing is done without a token. -/
@[simp] theorem run_nil : run lookup [] state = .ok state := rfl

/-- The first token is taken before the others. -/
@[simp] theorem run_cons (token : Token ν) :
    run lookup (token :: rest) state = step lookup state token >>= run lookup rest :=
  List.foldlM_cons

/-- Two runs of tokens are taken one behind the other. -/
@[simp] theorem run_append :
    run lookup (left ++ rest) state = run lookup left state >>= run lookup rest :=
  List.foldlM_append

/-- An operator is taken between the runs at its left and at its right. -/
theorem run_joined (op : Operator) :
    run lookup (left ++ .operator op :: rest) state =
      (do let before ← run lookup left state
          let waiting ← step lookup before (.operator op)
          run lookup rest waiting) := by
  -- The operator is the first token of what follows the left run.
  rw [run_append]
  rfl

/-- Whether a term may begin: no multiplication or division waits for its right operand. -/
def AwaitsTerm (pending : List Pending) : Prop :=
  ∀ op below, pending = .operator op :: below → op.isAdditive = true

/-- Whether an expression may begin: no operator waits since the innermost open parenthesis. -/
def AwaitsExpression (pending : List Pending) : Prop :=
  ∀ op below, pending ≠ .operator op :: below

/-- A term may begin wherever an expression may. -/
theorem AwaitsExpression.term (awaits : AwaitsExpression pending) : AwaitsTerm pending :=
  fun op below waits => absurd waits (awaits op below)

/-- An operand that no multiplication or division waits for is left as it is. -/
theorem pushOperand_of_awaitsTerm (value : ν) (awaits : AwaitsTerm pending) :
    pushOperand value ⟨values, pending⟩ = .ok ⟨value :: values, pending⟩ := by
  -- A parenthesis or an addition on top leaves the operand alone.
  cases pending with
  | nil => rfl
  | cons top below =>
    cases top with
    | leftParen => rfl
    | operator op => simp [pushOperand, foldIf, awaits op below rfl]

/-- An addition or a subtraction takes what is complete at its left, and nothing else changes. -/
theorem foldIf_of_awaitsExpression (awaits : AwaitsExpression pending) :
    foldIf true ⟨values, pending⟩ = .ok ⟨values, pending⟩ := by
  -- There is no operator on top that could be applied.
  cases pending with
  | nil => rfl
  | cons top below =>
    cases top with
    | leftParen => rfl
    | operator op => exact absurd rfl (awaits op below)

/-- The state behind an operation that is not applied yet, its operands evaluated from the left. -/
def waiting (op : Operator) (values : List ν) (pending : List Pending) (x y : Except Reason ν) :
    Except Reason (Stacks ν) := do
  let a ← x
  let b ← y
  return ⟨b :: a :: values, .operator op :: pending⟩

/-- The state behind an expression, whose last addition or subtraction waits if it has one. -/
def behind (lookup : String → Except LookupError ν) (values : List ν) (pending : List Pending) :
    Expression ν → Except Reason (Stacks ν)
  | .term only => do
    let x ← only.value lookup
    return ⟨x :: values, pending⟩
  | .add left right => waiting .add values pending (left.value lookup) (right.value lookup)
  | .sub left right => waiting .sub values pending (left.value lookup) (right.value lookup)

/-- An addition or a subtraction that waits is applied by the next one. -/
theorem waiting_foldIf {op : Operator} (weak : op.isAdditive = true) (x y : Except Reason ν) :
    waiting op values pending x y >>= foldIf true =
      (do let z ← op.between x y; return ⟨z :: values, pending⟩) := by
  simp only [waiting, Operator.between, bind_assoc, pure_bind, foldIf, weak, if_true, fold]

/-- Once the operator that waits behind an expression is applied, the value is on top. -/
theorem behind_foldIf (awaits : AwaitsExpression pending) (tree : Expression ν) :
    behind lookup values pending tree >>= foldIf true =
      (do let x ← tree.value lookup; return ⟨x :: values, pending⟩) := by
  cases tree with
  | term only =>
    -- No operator waits behind a term.
    simp only [behind, Expression.value, bind_assoc, pure_bind, foldIf_of_awaitsExpression awaits]
    rfl
  | add left right =>
    rw [Expression.value_add]
    exact waiting_foldIf rfl _ _
  | sub left right =>
    rw [Expression.value_sub]
    exact waiting_foldIf rfl _ _

/-- An operator that waits alone is applied for the result. -/
theorem waiting_result (op : Operator) (x y : Except Reason ν) :
    waiting op [] [] x y >>= result = op.between x y := by
  -- Its two operands are all the values there are.
  have applied : ∀ a b : ν, result ⟨[b, a], [.operator op]⟩ = op.apply a b := by
    intro a b
    simp only [result, fold, bind_assoc, pure_bind]
    exact bind_pure _
  simp only [waiting, Operator.between, bind_assoc, pure_bind, applied]

/-- What is left behind an expression alone is its value. -/
theorem behind_result (tree : Expression ν) :
    behind lookup [] [] tree >>= result = tree.value lookup := by
  -- One value is left at once for a term, and after the last operator for a sum or a difference.
  cases tree with
  | term only =>
    have single : ∀ x : ν, result ⟨[x], []⟩ = pure x := fun _ => rfl
    simp only [behind, Expression.value, bind_assoc, pure_bind, single, bind_pure]
  | add left right =>
    rw [Expression.value_add]
    exact waiting_result .add _ _
  | sub left right =>
    rw [Expression.value_sub]
    exact waiting_result .sub _ _

/-- A run through an expression and a term with an addition or a subtraction between them leaves both
operands and their operator. -/
theorem run_additive {op : Operator} (weak : op.isAdditive = true) {first : Expression ν}
    {second : Except Reason ν} (awaits : AwaitsExpression pending)
    (ranFirst : run lookup left ⟨values, pending⟩ = behind lookup values pending first)
    (ranSecond : ∀ below waits, AwaitsTerm waits → run lookup rest ⟨below, waits⟩ =
      (do let y ← second; return ⟨y :: below, waits⟩)) :
    run lookup (left ++ .operator op :: rest) ⟨values, pending⟩ =
      waiting op values pending (first.value lookup) second := by
  -- The operator applies the one that waits at its left and waits for the term at its right.
  have taken : ∀ state : Stacks ν, step lookup state (.operator op) =
      (do let folded ← state.foldIf true
          return ⟨folded.values, .operator op :: folded.pending⟩) := by
    simp [step, weak]
  have waits : AwaitsTerm (.operator op :: pending) := by
    rintro _ _ ⟨⟩
    exact weak
  -- What waits at the left is applied before the operator waits, and then the term is run on top.
  calc run lookup (left ++ .operator op :: rest) ⟨values, pending⟩
    _ = (do let folded ← behind lookup values pending first >>= foldIf true
            run lookup rest ⟨folded.values, .operator op :: folded.pending⟩) := by
      simp only [run_joined, ranFirst, taken, bind_assoc, pure_bind]
    _ = (do let x ← first.value lookup
            run lookup rest ⟨x :: values, .operator op :: pending⟩) := by
      simp only [behind_foldIf awaits, bind_assoc, pure_bind]
    _ = waiting op values pending (first.value lookup) second := by
      simp only [ranSecond _ _ waits, waiting]

/-- A run through a term and a factor with a multiplication or a division between them leaves the
value of the operation. -/
theorem run_multiplicative {op : Operator} (strong : op.isAdditive = false)
    {first second : Except Reason ν}
    (ranFirst : run lookup left ⟨values, pending⟩ =
      (do let x ← first; return ⟨x :: values, pending⟩))
    (ranSecond : ∀ below waits, run lookup rest ⟨below, waits⟩ =
      (do let y ← second; pushOperand y ⟨below, waits⟩)) :
    run lookup (left ++ .operator op :: rest) ⟨values, pending⟩ =
      (do let z ← op.between first second; return ⟨z :: values, pending⟩) := by
  -- The operator waits for no longer than until the factor at its right is complete.
  have taken : ∀ state : Stacks ν, step lookup state (.operator op) =
      pure ⟨state.values, .operator op :: state.pending⟩ := by
    simp [step, strong, Pure.pure, Except.pure]
  have applied : ∀ x y : ν, pushOperand y ⟨x :: values, .operator op :: pending⟩ =
      (do let z ← op.apply x y
          return ⟨z :: values, pending⟩) := by
    simp [pushOperand, foldIf, strong, fold]
  simp only [run_joined, ranFirst, taken, ranSecond, applied, Operator.between, bind_assoc,
    pure_bind]

mutual

/-- A run through an expression leaves its value, or its last operator and both its operands. -/
theorem run_expression : ∀ (tree : Expression ν) (values : List ν) (pending : List Pending),
    AwaitsExpression pending →
      run lookup tree.tokens ⟨values, pending⟩ = behind lookup values pending tree
  -- The induction is on the tree, with the stacks below it left open: a right operand is run on top
  -- of its left one.
  | .term only, values, pending, awaits => run_term only values pending awaits.term
  | .add left right, values, pending, awaits =>
    run_additive rfl awaits (run_expression left values pending awaits) (run_term right)
  | .sub left right, values, pending, awaits =>
    run_additive rfl awaits (run_expression left values pending awaits) (run_term right)

/-- A run through a term leaves its value. -/
theorem run_term : ∀ (tree : Term ν) (values : List ν) (pending : List Pending),
    AwaitsTerm pending →
      run lookup tree.tokens ⟨values, pending⟩ =
        (do let x ← tree.value lookup
            return ⟨x :: values, pending⟩)
  -- A factor is complete at once where no stronger operator waits for it.
  | .factor only, values, pending, awaits => by
    simp only [Term.tokens, Term.value, run_factor only, pushOperand_of_awaitsTerm _ awaits]
    rfl
  | .mul left right, values, pending, awaits => by
    rw [Term.value_mul]
    exact run_multiplicative rfl (run_term left values pending awaits) (run_factor right)
  | .div left right, values, pending, awaits => by
    rw [Term.value_div]
    exact run_multiplicative rfl (run_term left values pending awaits) (run_factor right)

/-- A run through a factor pushes its value. -/
theorem run_factor : ∀ (tree : Factor ν) (values : List ν) (pending : List Pending),
    run lookup tree.tokens ⟨values, pending⟩ =
      (do let x ← tree.value lookup
          pushOperand x ⟨values, pending⟩)
  -- An operand is pushed, and what that sets off is the same for a value in parentheses.
  | .number value, values, pending => by
    simp only [Factor.tokens, Factor.value, run_cons, step]
    exact bind_pure _
  | .reference name, values, pending => by
    simp only [Factor.tokens, Factor.value, run_cons, step]
    cases lookup name with
    | error error => rfl
    | ok value => exact bind_pure _
  | .parenthesized inner, values, pending => by
    -- Inside, the parenthesis is on top; once it is closed, what waits before it has its operand.
    have awaits : AwaitsExpression (.leftParen :: pending) := by
      rintro _ _ ⟨⟩
    have closed : ∀ state : Stacks ν, step lookup state .rightParen =
        (do let folded ← state.foldIf true
            match folded.pending with
            | .leftParen :: below => foldIf false ⟨folded.values, below⟩
            | _ => .error .malformed) := fun _ => rfl
    -- The parenthesis that closes applies the last operator inside and then counts as an operand.
    calc run lookup (.leftParen :: (inner.tokens ++ [.rightParen])) ⟨values, pending⟩
      _ = (do let state ← run lookup inner.tokens ⟨values, .leftParen :: pending⟩
              step lookup state .rightParen) := by
        have last : run lookup [Token.rightParen] = fun state => step lookup state .rightParen :=
          funext fun state => bind_pure _
        show run lookup (inner.tokens ++ [.rightParen]) ⟨values, .leftParen :: pending⟩ = _
        rw [run_append, last]
      _ = (do let folded ← behind lookup values (.leftParen :: pending) inner >>= foldIf true
              match folded.pending with
              | .leftParen :: below => foldIf false ⟨folded.values, below⟩
              | _ => .error .malformed) := by
        simp only [run_expression inner _ _ awaits, closed, bind_assoc]
      _ = (do let x ← inner.value lookup
              pushOperand x ⟨values, pending⟩) := by
        simp only [behind_foldIf awaits, bind_assoc, pure_bind, pushOperand]

end

/-- How many operators wait. -/
def operators : List Pending → Nat
  | [] => 0
  | .operator _ :: below => operators below + 1
  | .leftParen :: below => operators below

/-- The values of a state in excess of the operators that wait. -/
def excess (state : Stacks ν) : Int :=
  state.values.length - operators state.pending

/-- An operator replaces two values by one. -/
theorem excess_of_fold {op : Operator} (folded : fold op values pending = .ok after) :
    after.excess = values.length - 1 - operators pending := by
  -- Two operands and an operator make way for one value.
  unfold fold at folded
  split at folded
  · rename_i right left below
    obtain ⟨value, -, same⟩ := bind_eq_ok.mp folded
    rw [← Except.ok.inj same]
    simp only [excess, List.length_cons]
    omega
  · simp at folded

/-- An operator that waited is gone together with one value. -/
theorem excess_of_foldIf {additive : Bool} (folded : foldIf additive state = .ok after) :
    after.excess = state.excess := by
  -- Either the operator on top is applied, or the state is the same.
  obtain ⟨values, pending⟩ := state
  simp only [foldIf] at folded
  split at folded
  · rename_i op below
    split at folded
    · rw [excess_of_fold folded]
      simp only [excess, operators]
      omega
    · rw [← Except.ok.inj folded]
  · rw [← Except.ok.inj folded]

/-- An operand is one value more. -/
theorem excess_of_pushOperand {value : ν} (pushed : pushOperand value state = .ok after) :
    after.excess = state.excess + 1 := by
  -- Whatever is applied then leaves the excess alone.
  rw [excess_of_foldIf pushed]
  simp only [excess, List.length_cons]
  omega

/-- A token changes the excess of values by its weight. -/
theorem excess_of_step {token : Token ν} (taken : step lookup state token = .ok after) :
    after.excess = state.excess + token.weight := by
  -- Operands and operators change what they count, and parentheses change nothing.
  cases token with
  | number value => exact excess_of_pushOperand taken
  | reference name =>
    -- A variable is one value more, if it has a number.
    simp only [step] at taken
    split at taken
    · exact excess_of_pushOperand taken
    · simp at taken
  | operator op =>
    simp only [step] at taken
    split at taken
    · -- What is folded first leaves the excess alone.
      obtain ⟨folded, complete, same⟩ := bind_eq_ok.mp taken
      have kept := excess_of_foldIf complete
      rw [← Except.ok.inj same]
      simp only [excess, operators, Token.weight] at kept ⊢
      omega
    · -- A strong operator waits at once.
      rw [← Except.ok.inj taken]
      simp only [excess, operators, Token.weight]
      omega
  | leftParen =>
    rw [← Except.ok.inj taken]
    simp [excess, operators, Token.weight]
  | rightParen =>
    -- What is applied on closing leaves the excess alone, before and behind the parenthesis.
    obtain ⟨folded, complete, closed⟩ := bind_eq_ok.mp taken
    have kept := excess_of_foldIf complete
    split at closed
    · rename_i below opened
      rw [excess_of_foldIf closed]
      simp only [excess, opened, operators, Token.weight] at kept ⊢
      omega
    · simp at closed
  | invalid text => simp [step] at taken

/-- A run of tokens changes the excess of values by its surplus. -/
theorem excess_of_run (ran : run lookup tokens state = .ok after) :
    after.excess = state.excess + Token.surplus tokens := by
  -- The weights of the tokens add up along the run.
  induction tokens generalizing state with
  | nil =>
    rw [← Except.ok.inj ran]
    simp [Token.surplus]
  | cons token rest ih =>
    obtain ⟨between, taken, others⟩ := bind_eq_ok.mp ran
    rw [ih others, excess_of_step taken, Token.surplus]
    omega

/-- A result needs one value more than there are operators that wait. -/
theorem excess_of_result {value : ν} (left : state.result = .ok value) : state.excess = 1 := by
  -- What waits decides whether an operator is applied before the one value is looked for.
  obtain ⟨values, pending⟩ := state
  unfold result at left
  dsimp only at left
  split at left
  · -- Nothing waits, and so one value is all there is.
    obtain ⟨folded, same, alone⟩ := bind_eq_ok.mp left
    cases same
    split at alone
    · rename_i only _
      have single : values = [_] := only
      simp [excess, single, operators]
    · simp at alone
  · -- The operator that waits is applied first, which takes one value away and nothing from the
    -- excess.
    rename_i op below
    obtain ⟨folded, complete, alone⟩ := bind_eq_ok.mp left
    have counted := excess_of_fold complete
    split at alone
    · rename_i only none
      simp only [excess, only, none, operators, List.length_singleton] at counted ⊢
      omega
    · simp at alone
  · simp [Bind.bind, Except.bind] at left

end Stacks

namespace Token

open Stacks

variable {accepts : String → Bool} {tokens left right : List (Token ν)} {reason : Reason} {value : ν}

/-- Only a run with one operand in excess of its operators has a value. -/
theorem surplus_of_evaluate (evaluated : evaluate lookup tokens = .ok value) :
    surplus tokens = 1 := by
  -- The run begins without values and ends with one in excess.
  obtain ⟨state, ran, left⟩ := bind_eq_ok.mp evaluated
  have none : (empty : Stacks ν).excess = 0 := rfl
  have one := excess_of_result left
  have counted := excess_of_run ran
  omega

/-- The value of an expression's tokens is that of the expression. -/
theorem evaluate_expression (tree : Expression ν) :
    evaluate lookup tree.tokens = tree.value lookup := by
  -- Nothing waits at the start of an evaluation.
  have awaits : AwaitsExpression [] := by
    rintro _ _ ⟨⟩
  show run lookup tree.tokens ⟨[], []⟩ >>= result = tree.value lookup
  rw [run_expression tree [] [] awaits, behind_result]

/-- Whether a reason is a division by zero or that of a variable that has no number. -/
def Explained (lookup : String → Except LookupError ν) (tokens : List (Token ν))
    (reason : Reason) : Prop :=
  reason = .divisionByZero ∨
    ∃ name error, reference name ∈ tokens ∧ lookup name = .error error ∧ error.reason = reason

omit [Arithmetic ν] in
/-- What explains a reason explains it among other tokens too. -/
theorem Explained.mono (explained : Explained lookup left reason) (within : left ⊆ tokens) :
    Explained lookup tokens reason := by
  -- Only a variable has a place among the tokens.
  rcases explained with zero | ⟨name, error, member, failed, same⟩
  · exact Or.inl zero
  · exact Or.inr ⟨name, error, within member, failed, same⟩

end Token

/-- An operator refuses its operands only where it divides by zero. -/
theorem Operator.apply_error {op : Operator} {x y : ν} {reason : Reason}
    (refused : op.apply x y = .error reason) : reason = .divisionByZero := by
  -- The other three operators never fail.
  cases op with
  | div =>
    simp only [apply] at refused
    split at refused
    · exact (Except.error.inj refused).symm
    · simp at refused
  | _ => simp [apply] at refused

section Failure

variable {tokens left right : List (Token ν)} {reason : Reason}

/-- An operation fails for the reason of an operand, or divides by zero. -/
theorem Token.explained_joined (op : Operator) {x y : Except Reason ν}
    (first : ∀ reason, x = .error reason → Explained lookup left reason)
    (second : ∀ reason, y = .error reason → Explained lookup right reason)
    (failed : op.between x y = .error reason) :
    Explained lookup (left ++ operator op :: right) reason := by
  -- The first failure wins, and it comes from the left operand, the right one or the operator.
  rcases bind_eq_error.mp failed with inLeft | ⟨a, -, failed⟩
  · exact (first reason inLeft).mono (by simp)
  · rcases bind_eq_error.mp failed with inRight | ⟨b, -, refused⟩
    · exact (second reason inRight).mono (by simp)
    · exact Or.inl (Operator.apply_error refused)

mutual

/-- An expression has no value only because of a division by zero or a variable. -/
theorem Expression.value_error : ∀ (tree : Expression ν) (reason : Reason),
    tree.value lookup = .error reason → Token.Explained lookup tree.tokens reason
  -- By induction on the tree: an operation passes on the reason of an operand or divides by zero.
  | .term only, reason, failed => only.value_error reason failed
  | .add left right, _, failed => by
    rw [Expression.value_add] at failed
    exact Token.explained_joined .add left.value_error right.value_error failed
  | .sub left right, _, failed => by
    rw [Expression.value_sub] at failed
    exact Token.explained_joined .sub left.value_error right.value_error failed

/-- A term has no value only because of a division by zero or a variable. -/
theorem Term.value_error : ∀ (tree : Term ν) (reason : Reason),
    tree.value lookup = .error reason → Token.Explained lookup tree.tokens reason
  -- The operands are explained by the same argument one level further down.
  | .factor only, reason, failed => only.value_error reason failed
  | .mul left right, _, failed => by
    rw [Term.value_mul] at failed
    exact Token.explained_joined .mul left.value_error right.value_error failed
  | .div left right, _, failed => by
    rw [Term.value_div] at failed
    exact Token.explained_joined .div left.value_error right.value_error failed

/-- A factor has no value only because of a division by zero or a variable. -/
theorem Factor.value_error : ∀ (tree : Factor ν) (reason : Reason),
    tree.value lookup = .error reason → Token.Explained lookup tree.tokens reason
  -- Only a variable can be without a number here.
  | .number value, reason, failed => by simp [Factor.value] at failed
  | .reference name, reason, failed => by
    rw [Factor.value] at failed
    cases found : lookup name with
    | error error =>
      rw [found] at failed
      exact Or.inr ⟨name, error, by simp [Factor.tokens], found, Except.error.inj failed⟩
    | ok value =>
      rw [found] at failed
      cases failed
  -- Parentheses hold the tokens of what is inside.
  | .parenthesized inner, reason, failed =>
    (inner.value_error reason failed).mono fun token member => by simp [Factor.tokens, member]

end

namespace Stacks

variable {state : Stacks ν}

/-- A run reads no variables but its own. -/
theorem run_congr {other : String → Except LookupError ν}
    (agree : ∀ name, .reference name ∈ tokens → lookup name = other name) :
    run lookup tokens state = run other tokens state := by
  -- Only a variable looks anything up.
  induction tokens generalizing state with
  | nil => rfl
  | cons token rest ih =>
    have first : step lookup state token = step other state token := by
      cases token with
      | reference name => simp only [step, agree name (by simp)]
      | _ => rfl
    have others : run lookup rest = run other rest :=
      funext fun _ => ih fun name member => agree name (List.mem_cons_of_mem token member)
    rw [run_cons, run_cons, first, others]

end Stacks

end Failure

namespace Token

open Stacks

variable {tokens : List (Token ν)} {reason : Reason}

/-- The value of tokens depends on the numbers of their variables alone. -/
theorem evaluate_congr {other : String → Except LookupError ν}
    (agree : ∀ name, reference name ∈ tokens → lookup name = other name) :
    evaluate lookup tokens = evaluate other tokens := by
  -- Nothing is looked up once the tokens have been taken.
  show run lookup tokens empty >>= result = run other tokens empty >>= result
  rw [run_congr agree]

/-- Tokens that pass the check have the value of the expression they are, and none otherwise. -/
theorem evaluate_checked (ν : Type) [Arithmetic ν] (accepts : String → Bool)
    (tokens : List (Token ν)) (checked : check accepts tokens = .ok ())
    (lookup : String → Except LookupError ν) :
    (∀ tree : Expression ν, tree.tokens = tokens →
      evaluate lookup tokens = tree.value lookup ∧
        ∀ reason, evaluate lookup tokens = .error reason → reason = .divisionByZero ∨
          ∃ name error, reference name ∈ tokens ∧ lookup name = .error error ∧
            error.reason = reason) ∧
      (¬IsExpression tokens → ∃ reason, evaluate lookup tokens = .error reason) ∧
      ∀ value, evaluate lookup tokens = .ok value →
        ∃ tree : Expression ν, tree.tokens = tokens ∧ tree.value lookup = .ok value := by
  have expression : ∀ value, evaluate lookup tokens = .ok value → IsExpression tokens := by
    -- An operand too few for the operators is an operator that is unfinished.
    intro value evaluated
    have counted := surplus_of_check checked
    have one := surplus_of_evaluate evaluated
    exact isExpression_of_check checked (by omega)
  refine ⟨?_, ?_, ?_⟩
  · -- An expression has its value, and no other reason to fail than it has itself.
    rintro tree rfl
    refine ⟨evaluate_expression tree, fun reason failed => ?_⟩
    rw [evaluate_expression] at failed
    exact tree.value_error reason failed
  · -- With a value the tokens would be an expression.
    intro none
    cases evaluated : evaluate lookup tokens with
    | error reason => exact ⟨reason, rfl⟩
    | ok value => exact absurd (expression value evaluated) none
  · -- The value is that of some tree with these tokens.
    intro value evaluated
    obtain ⟨tree, rfl⟩ := expression value evaluated
    exact ⟨tree, rfl, by rw [← evaluate_expression, evaluated]⟩

/-- The integers, over which evaluations can be followed by hand. -/
local instance : Arithmetic Int where
  add := Int.add
  sub := Int.sub
  mul := Int.mul
  div := Int.tdiv
  isZero := (· == 0)

/-- Quotients and a product bind tighter than the difference and the sum around them, operators of one
strength are applied from the left, and only a right operand of zero cannot be divided by. -/
theorem evaluate_checked_mixed :
    let tokens : List (Token Int) := [number 0, operator .div, number 2, operator .sub, number 12,
      operator .div, reference "a", operator .mul, leftParen, number 2, operator .add, number 5,
      rightParen, operator .add, number 1]
    check (fun _ => true) tokens = .ok () ∧
      ∃ tree : Expression Int, tree.tokens = tokens ∧
        tree.value (fun _ => .ok 4) = .ok (-20) ∧
          tree.value (fun _ => .ok 0) = .error .divisionByZero := by
  intro tokens
  -- The run has a value if the variable is four, and so it is an expression with that value.
  obtain ⟨tree, spelled, four⟩ :=
    (evaluate_checked Int (fun _ => true) tokens rfl fun _ => .ok 4).2.2 (-20) rfl
  have zero := ((evaluate_checked Int (fun _ => true) tokens rfl fun _ => .ok 0).1 tree spelled).1
  exact ⟨rfl, tree, spelled, four, zero.symm.trans rfl⟩

end Token

end Worksheet
