import Worksheet.Formula.Evaluation

/-!
The grammar of formulas: an expression adds and subtracts terms, a term multiplies and divides
factors, and a factor is an operand or an expression in parentheses. Each tree has its tokens and,
given the numbers of its variables, its value.
-/

namespace Worksheet

mutual

/-- One term, or an expression and a term with `+` or `-` between them. -/
inductive Expression (ν : Type)
  | term (only : Term ν)
  | add (left : Expression ν) (right : Term ν)
  | sub (left : Expression ν) (right : Term ν)

/-- One factor, or a term and a factor with `*` or `/` between them. -/
inductive Term (ν : Type)
  | factor (only : Factor ν)
  | mul (left : Term ν) (right : Factor ν)
  | div (left : Term ν) (right : Factor ν)

/-- A number, a variable or an expression in parentheses. -/
inductive Factor (ν : Type)
  | number (value : ν)
  | reference (name : String)
  | parenthesized (inner : Expression ν)

end

variable {ν : Type}

mutual

/-- The tokens of an expression. -/
def Expression.tokens : Expression ν → List (Token ν)
  | .term only => only.tokens
  | .add left right => left.tokens ++ .operator .add :: right.tokens
  | .sub left right => left.tokens ++ .operator .sub :: right.tokens

/-- The tokens of a term. -/
def Term.tokens : Term ν → List (Token ν)
  | .factor only => only.tokens
  | .mul left right => left.tokens ++ .operator .mul :: right.tokens
  | .div left right => left.tokens ++ .operator .div :: right.tokens

/-- The tokens of a factor. -/
def Factor.tokens : Factor ν → List (Token ν)
  | .number value => [.number value]
  | .reference name => [.reference name]
  | .parenthesized inner => .leftParen :: (inner.tokens ++ [.rightParen])

end

/-- Whether some tokens are those of an expression. -/
def IsExpression (tokens : List (Token ν)) : Prop :=
  ∃ tree : Expression ν, tree.tokens = tokens

section Value

variable [Arithmetic ν]

mutual

/-- The value of an expression: its left operand, then its right one, then their sum or difference. -/
def Expression.value (lookup : String → Except LookupError ν) :
    Expression ν → Except Reason ν
  | .term only => only.value lookup
  | .add left right => do
    let x ← left.value lookup
    let y ← right.value lookup
    return Arithmetic.add x y
  | .sub left right => do
    let x ← left.value lookup
    let y ← right.value lookup
    return Arithmetic.sub x y

/-- The value of a term: its left operand, then its right one, then their product or their quotient,
which a right operand of zero does not have. -/
def Term.value (lookup : String → Except LookupError ν) : Term ν → Except Reason ν
  | .factor only => only.value lookup
  | .mul left right => do
    let x ← left.value lookup
    let y ← right.value lookup
    return Arithmetic.mul x y
  | .div left right => do
    let x ← left.value lookup
    let y ← right.value lookup
    if Arithmetic.isZero y then .error .divisionByZero else return Arithmetic.div x y

/-- The value of a factor, which is what is looked up for a variable. -/
def Factor.value (lookup : String → Except LookupError ν) : Factor ν → Except Reason ν
  | .number value => .ok value
  | .reference name => (lookup name).mapError LookupError.reason
  | .parenthesized inner => inner.value lookup

end

end Value

/-- An expression ends with a term, and with any other term in its place it is an expression again. -/
theorem Expression.exists_last (tree : Expression ν) :
    ∃ (front : List (Token ν)) (last : Term ν), tree.tokens = front ++ last.tokens ∧
      ∀ term : Term ν, ∃ other : Expression ν, other.tokens = front ++ term.tokens := by
  -- The last term is all of the expression, or what its last sign is followed by.
  cases tree with
  | term only => exact ⟨[], only, rfl, fun term => ⟨.term term, rfl⟩⟩
  | add left right =>
    refine ⟨left.tokens ++ [.operator .add], right, ?_, fun term => ⟨.add left term, ?_⟩⟩
    all_goals simp [Expression.tokens]
  | sub left right =>
    refine ⟨left.tokens ++ [.operator .sub], right, ?_, fun term => ⟨.sub left term, ?_⟩⟩
    all_goals simp [Expression.tokens]

/-- A multiplication or a division takes the last term of an expression for its left operand. -/
theorem Expression.exists_extended (tree : Expression ν) {tokens : List (Token ν)}
    (extended : ∀ last : Term ν, ∃ longer : Term ν, longer.tokens = last.tokens ++ tokens) :
    ∃ longer : Expression ν, longer.tokens = tree.tokens ++ tokens := by
  -- What stands before the last term stays as it is.
  obtain ⟨front, last, spelled, replaced⟩ := tree.exists_last
  obtain ⟨term, termSpelled⟩ := extended last
  obtain ⟨longer, longerSpelled⟩ := replaced term
  exact ⟨longer, by rw [longerSpelled, termSpelled, spelled, List.append_assoc]⟩

/-- An operator and a factor extend an expression to another one, however strong the operator is. -/
theorem Expression.exists_snoc (tree : Expression ν) (op : Operator) (right : Factor ν) :
    ∃ longer : Expression ν, longer.tokens = tree.tokens ++ .operator op :: right.tokens := by
  -- A weak operator takes the whole expression at its left, and a strong one its last term.
  cases op with
  | add => exact ⟨.add tree (.factor right), rfl⟩
  | sub => exact ⟨.sub tree (.factor right), rfl⟩
  | mul => exact tree.exists_extended fun last => ⟨.mul last right, rfl⟩
  | div => exact tree.exists_extended fun last => ⟨.div last right, rfl⟩

/-- A property of token runs that operands have, and that parentheses around a run and operators
between two runs keep. -/
structure Compositional (P : List (Token ν) → Prop) : Prop where
  number : ∀ value, P [.number value]
  reference : ∀ name, P [.reference name]
  parenthesized : ∀ inner, P inner → P (.leftParen :: (inner ++ [.rightParen]))
  joined : ∀ left op right, P left → P right → P (left ++ .operator op :: right)

section Induction

variable {P : List (Token ν) → Prop}

mutual

/-- The tokens of an expression have every property that is kept by composition. -/
theorem Compositional.expression (kept : Compositional P) : ∀ tree : Expression ν, P tree.tokens
  -- By induction on the tree: each operator is one between two runs that have the property.
  | .term only => kept.term only
  | .add left right => kept.joined _ .add _ (kept.expression left) (kept.term right)
  | .sub left right => kept.joined _ .sub _ (kept.expression left) (kept.term right)

/-- The tokens of a term have every property that is kept by composition. -/
theorem Compositional.term (kept : Compositional P) : ∀ tree : Term ν, P tree.tokens
  | .factor only => kept.factor only
  | .mul left right => kept.joined _ .mul _ (kept.term left) (kept.factor right)
  | .div left right => kept.joined _ .div _ (kept.term left) (kept.factor right)

/-- The tokens of a factor have every property that is kept by composition. -/
theorem Compositional.factor (kept : Compositional P) : ∀ tree : Factor ν, P tree.tokens
  | .number value => kept.number value
  | .reference name => kept.reference name
  | .parenthesized inner => kept.parenthesized _ (kept.expression inner)

end

end Induction

end Worksheet
