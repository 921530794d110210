import Worksheet.Formula.Basic
import Worksheet.Proofs.Formula.Grammar

/-!
The check of a formula's tokens against the grammar: it lets through exactly the expressions, and
besides them only runs in which some operator stands directly before a closing parenthesis.
-/

namespace Worksheet.Token

variable {ν : Type} {accepts : String → Bool} {opened closed : Nat} {token : Token ν}
  {tokens rest left : List (Token ν)}

/-- Whether an operand may begin with a token. -/
def beginsOperand : Token ν → Bool
  | leftParen | number _ | reference _ => true
  | _ => false

/-- How many parentheses a token opens. -/
def opens : Token ν → Nat
  | leftParen => 1
  | _ => 0

/-- How many parentheses a token closes. -/
def closes : Token ν → Nat
  | rightParen => 1
  | _ => 0

/-- Whether a run does not end with an operator. -/
def EndsComplete (tokens : List (Token ν)) : Prop :=
  ∀ op, tokens.getLast? ≠ some (operator op)

/-- A token that breaks no rule leaves the verdict to the tokens behind it. -/
theorem checkFrom_step (unbroken : token.broken? accepts opened closed rest.head? = none) :
    checkFrom accepts opened closed (token :: rest) =
      checkFrom accepts (opened + token.opens) (closed + token.closes) rest := by
  -- Only the two parentheses change what is counted.
  cases token <;> simp [checkFrom, unbroken, opens, closes]

/-- A token that breaks a rule decides the verdict. -/
theorem checkFrom_broken {error : FormatError}
    (broken : token.broken? accepts opened closed rest.head? = some error) :
    checkFrom accepts opened closed (token :: rest) = .error error := by
  cases token <;> simp [checkFrom, broken]

/-- A token passes if it breaks no rule and the tokens behind it pass. -/
theorem checkFrom_cons :
    checkFrom accepts opened closed (token :: rest) = .ok () ↔
      token.broken? accepts opened closed rest.head? = none ∧
        checkFrom accepts (opened + token.opens) (closed + token.closes) rest = .ok () := by
  -- A broken rule is the verdict itself, and without one the verdict is left to the rest.
  cases broken : token.broken? accepts opened closed rest.head? with
  | some error => simp [checkFrom_broken broken]
  | none => simp [checkFrom_step broken]

/-- A run passes if it is not empty, has an operator at neither end, holds nothing invalid, and
passes from its first token on. -/
theorem check_eq_ok_iff :
    check accepts tokens = .ok () ↔
      (∃ first, tokens.head? = some first ∧ first.isOperator = false) ∧ EndsComplete tokens ∧
        (∀ text, invalid text ∉ tokens) ∧ checkFrom accepts 0 0 tokens = .ok () := by
  -- The rules for the whole run come first: both ends and every token are looked at.
  have valid : tokens.findSome? invalid? = none ↔ ∀ text, invalid text ∉ tokens := by
    rw [List.findSome?_eq_none_iff]
    constructor
    · -- An invalid token would have been found.
      intro none_invalid text member
      exact Option.some_ne_none text (none_invalid _ member)
    · intro none_invalid token member
      cases token with
      | invalid text => exact absurd member (none_invalid text)
      | _ => rfl
  cases tokens with
  | nil => simp [check]
  | cons first tail =>
    cases atEnd : (first :: tail).getLast? with
    | none => simp at atEnd
    | some last =>
      -- The last token tells how the run ends.
      have ends : EndsComplete (first :: tail) ↔ last.isOperator = false := by
        cases last <;> simp [EndsComplete, isOperator, atEnd]
      rw [← valid, ends]
      -- The verdict is that of the first rule that is broken.
      cases found : (first :: tail).findSome? invalid? with
      | some text => simp [check, atEnd, found]
      | none =>
        cases front : first.isOperator with
        | true => simp [check, atEnd, found, front]
        | false => cases back : last.isOperator <;> simp [check, atEnd, found, front, back]

/-- What may stand behind a token of an expression or of a run with an unfinished operation, and what
a variable and a closing parenthesis need besides. -/
def Fits (accepts : String → Bool) (opened closed : Nat) (next : Option (Token ν)) :
    Token ν → Prop
  | leftParen => next.any beginsOperand = true
  | rightParen => closed < opened ∧ mayFollowOperand next = true
  | operator _ => next.any beginsOperand = true ∨ next = some rightParen
  | number _ => mayFollowOperand next = true
  | reference name => accepts name = true ∧ mayFollowOperand next = true
  | invalid _ => False

/-- A token that passes fits in front of what stands behind it. -/
theorem fits_of_checkFrom (balanced : closed ≤ opened) (ends : EndsComplete (token :: rest))
    (checked : checkFrom accepts opened closed (token :: rest) = .ok ()) :
    token.Fits accepts opened closed rest.head? := by
  -- What a rule leaves open is settled by the rule for the next token.
  obtain ⟨unbroken, passed⟩ := checkFrom_cons.mp checked
  cases token with
  | leftParen =>
    -- An end here would leave the parenthesis open, and nothing invalid passes.
    cases rest with
    | nil =>
      have uneven : opened + 1 ≠ closed := by omega
      simp [checkFrom, opens, closes, uneven] at passed
    | cons next tail =>
      have nextPasses := (checkFrom_cons.mp passed).1
      cases next <;> simp_all [broken?, beginsOperand, Fits]
  | rightParen =>
    -- It closes one of the open parentheses, and its rule looks at what follows.
    simp only [broken?] at unbroken
    split at unbroken
    · simp at unbroken
    · split at unbroken
      · rename_i more follows
        exact ⟨by omega, follows⟩
      · simp at unbroken
  | operator op =>
    cases rest with
    -- The run goes on, with no operator and nothing invalid.
    | nil => exact absurd rfl (ends op)
    | cons next tail =>
      have nextPasses := (checkFrom_cons.mp passed).1
      cases next <;> simp_all [broken?, beginsOperand, isOperator, Fits]
  -- An operand is only followed by what may follow it.
  | number value => simpa [broken?, Fits] using unbroken
  | reference name =>
    simp only [broken?] at unbroken
    split at unbroken
    · simp at unbroken
    · split at unbroken
      · rename_i accepted follows
        exact ⟨by simpa using accepted, follows⟩
      · simp at unbroken
  | invalid text => simp [broken?] at unbroken

/-- Whether what stands at the left of an operand is nothing or an expression with an operator. -/
def Leads (left : List (Token ν)) : Prop :=
  left = [] ∨ ∃ (tree : Expression ν) (op : Operator), left = tree.tokens ++ [operator op]

/-- A run inside open parentheses, with what stands at the left of each, the innermost first. -/
def enclose : List (List (Token ν)) → List (Token ν) → List (Token ν)
  | [], inner => inner
  | left :: outer, inner => enclose outer (left ++ leftParen :: inner)

/-- An operand completes what stands at its left to an expression. -/
theorem Leads.complete (leads : Leads left) (operand : Factor ν) :
    ∃ tree : Expression ν, tree.tokens = left ++ operand.tokens := by
  -- At the left is either nothing, or an expression that the operator lets go on.
  rcases leads with rfl | ⟨tree, op, rfl⟩
  · exact ⟨.term (.factor operand), rfl⟩
  · obtain ⟨longer, spelled⟩ := tree.exists_snoc op operand
    exact ⟨longer, by simp [spelled]⟩

/-- Whether no operator stands directly before a closing parenthesis. -/
def Finished (tokens : List (Token ν)) : Prop :=
  ∀ op, ¬[operator op, rightParen] <:+: tokens

/-- How many operators stand directly before a closing parenthesis. -/
def unfinished : List (Token ν) → Nat
  | operator _ :: rightParen :: rest => unfinished rest + 1
  | _ :: rest => unfinished rest
  | [] => 0

/-- No operator is unfinished if none stands directly before a closing parenthesis. -/
theorem unfinished_eq_zero_iff :
    unfinished tokens = 0 ↔ Finished tokens := by
  -- An infix of a run is at its head or in its tail, and only an operator may count at the head.
  induction tokens with
  | nil => simp [unfinished, Finished]
  | cons token rest ih =>
    simp only [Finished] at ih ⊢
    simp only [List.infix_cons_iff, List.cons_prefix_cons, not_or, forall_and, ← ih]
    cases token with
    | operator op =>
      cases rest with
      | nil => simp [unfinished]
      | cons next tail => cases next <;> simp [unfinished, eq_comm]
    | _ => simp [unfinished]

/-- A finished run is finished behind its first token too. -/
theorem unfinished_tail_le (token : Token ν) (rest : List (Token ν)) :
    unfinished rest ≤ unfinished (token :: rest) := by
  -- The first token may be the operator of one more pair.
  cases token with
  | operator op =>
    cases rest with
    | nil => exact Nat.zero_le _
    | cons next tail => cases next <;> simp [unfinished]
  | _ => exact Nat.le_refl _

/-- A run that ends complete does so behind its first token too. -/
theorem EndsComplete.tail (ends : EndsComplete (token :: rest)) : EndsComplete rest := by
  intro op last
  -- With something behind the first token, the last token is the same.
  cases rest with
  | nil => simp at last
  | cons next tail => exact ends op (by simpa using last)

/-- A run ends complete if some last part of it does. -/
theorem EndsComplete.append (left : List (Token ν)) (ends : EndsComplete rest)
    (nonempty : rest ≠ []) : EndsComplete (left ++ rest) := by
  -- The last token of a run is that of any nonempty part at its end.
  intro op
  obtain ⟨last, atEnd⟩ := Option.isSome_iff_exists.mp (List.getLast?_isSome.mpr nonempty)
  rw [List.getLast?_append, atEnd, Option.some_or, ← atEnd]
  exact ends op

/-- Whether a run makes a whole expression of what stands before it, with what is at the left of the
parentheses that are still open. -/
structure Completes (outer : List (List (Token ν))) (rest : List (Token ν)) : Prop where
  /-- Behind an expression, where the run may follow an operand. -/
  behind (tree : Expression ν) : mayFollowOperand rest.head? = true →
    IsExpression (enclose outer (tree.tokens ++ rest))
  /-- Behind what leads up to an operand, where the run begins with one. -/
  before (left : List (Token ν)) : Leads left → rest.head?.any beginsOperand = true →
    IsExpression (enclose outer (left ++ rest))

section Completes

variable {outer : List (List (Token ν))}

/-- An operand in front of a run is completed with what leads up to it. -/
theorem Completes.operand (completes : Completes outer rest)
    (follows : mayFollowOperand rest.head? = true) (leads : Leads left) (operand : Factor ν) :
    IsExpression (enclose outer (left ++ operand.tokens ++ rest)) := by
  -- With the operand, what leads up to it is an expression, which the run may stand behind.
  obtain ⟨longer, spelled⟩ := leads.complete operand
  rw [← spelled]
  exact completes.behind longer follows

/-- The expression in the innermost parentheses is completed behind them. -/
theorem Completes.rightParen (completes : Completes outer rest)
    (follows : mayFollowOperand rest.head? = true) (leads : Leads left) (tree : Expression ν) :
    IsExpression (enclose (left :: outer) (tree.tokens ++ rightParen :: rest)) := by
  -- In its parentheses the expression is an operand.
  simpa [enclose, Factor.tokens] using completes.operand follows leads (.parenthesized tree)

/-- An operator in front of a run is completed with the expression before it. -/
theorem Completes.operator (completes : Completes outer rest)
    (begins : rest.head?.any beginsOperand = true) (tree : Expression ν) (op : Operator) :
    IsExpression (enclose outer (tree.tokens ++ operator op :: rest)) := by
  -- The operand at the right of the operator is still to come.
  have whole := completes.before (tree.tokens ++ [.operator op]) (Or.inr ⟨tree, op, rfl⟩) begins
  rwa [List.append_assoc, List.singleton_append] at whole

/-- A parenthesis in front of a run opens a place with nothing at its left. -/
theorem Completes.leftParen (completes : Completes (left :: outer) rest)
    (begins : rest.head?.any beginsOperand = true) :
    IsExpression (enclose outer (left ++ leftParen :: rest)) := by
  -- The run stands alone inside the parenthesis, which keeps what is at its left for later.
  simpa [enclose] using completes.before [] (Or.inl rfl) begins

/-- An operator that is finished is followed by an operand. -/
theorem begins_of_finished {op : Operator}
    (fits : (operator op).Fits accepts opened closed rest.head?)
    (finished : unfinished (operator op :: rest) = 0) : rest.head?.any beginsOperand = true := by
  -- What fits behind an operator is an operand or a parenthesis that closes.
  rcases fits with begins | closing
  · exact begins
  · -- An operator before a parenthesis that closes would be unfinished.
    cases rest with
    | nil => simp at closing
    | cons next tail =>
      obtain rfl : next = rightParen := by simpa using closing
      simp [unfinished] at finished

/-- A run that passes and leaves no operator unfinished completes whatever is open before it. -/
theorem completes_of_checkFrom (leads : ∀ left ∈ outer, Leads left)
    (balanced : opened = closed + outer.length) (ends : EndsComplete rest)
    (finished : unfinished rest = 0) (checked : checkFrom accepts opened closed rest = .ok ()) :
    Completes outer rest := by
  -- Each token either completes an operand at the left of what follows, or opens a new place for
  -- one, so that the places behind and before an operand need one another.
  induction rest generalizing opened closed outer with
  | nil =>
    -- At the end as many parentheses are closed as open, so that the tree is the whole run.
    have even : opened = closed := by
      by_cases even : opened = closed
      · exact even
      · simp [checkFrom, even] at checked
    obtain rfl : outer = [] := List.eq_nil_of_length_eq_zero (by omega)
    exact ⟨fun tree _ => ⟨tree, by simp [enclose]⟩, by simp⟩
  | cons token rest ih =>
    have fits := fits_of_checkFrom (by omega) ends checked
    have passed := (checkFrom_cons.mp checked).2
    have tailFinished : unfinished rest = 0 := by
      have shrinks := unfinished_tail_le token rest
      omega
    refine ⟨fun tree follows => ?_, fun left leading begins => ?_⟩
    · cases token with
      | rightParen =>
        -- As a parenthesis is closed, one is open, with something that leads up to it.
        have more : closed < opened := fits.1
        cases outer with
        | nil =>
          simp at balanced
          omega
        | cons left outer =>
          obtain ⟨leading, outerLead⟩ := List.forall_mem_cons.mp leads
          have completes := ih outerLead (by simp [opens, closes] at balanced ⊢; omega) ends.tail
            tailFinished passed
          exact completes.rightParen fits.2 leading tree
      | operator op =>
        have completes := ih leads balanced ends.tail tailFinished passed
        exact completes.operator (begins_of_finished fits finished) tree op
      | _ => simp [mayFollowOperand] at follows
    · cases token with
      | leftParen =>
        -- What stands at the left of the parenthesis waits until it is closed.
        have allLead : ∀ l ∈ left :: outer, Leads l :=
          List.forall_mem_cons.mpr ⟨leading, leads⟩
        have completes := ih allLead (by simp [opens, closes] at balanced ⊢; omega) ends.tail
          tailFinished passed
        exact completes.leftParen fits
      | number value =>
        have completes := ih leads balanced ends.tail tailFinished passed
        simpa [Factor.tokens] using completes.operand fits leading (.number value)
      | reference name =>
        have completes := ih leads balanced ends.tail tailFinished passed
        simpa [Factor.tokens] using completes.operand fits.2 leading (.reference name)
      | _ => simp [beginsOperand] at begins

end Completes

/-- What a token adds to the operands of a run in excess of its operators. -/
def weight : Token ν → Int
  | number _ | reference _ => 1
  | operator _ => -1
  | _ => 0

/-- The operands of a run in excess of its operators. -/
def surplus : List (Token ν) → Int
  | [] => 0
  | token :: rest => token.weight + surplus rest

/-- The excess of two runs is that of one behind the other. -/
theorem surplus_append : surplus (left ++ rest) = surplus left + surplus rest := by
  -- The weights of the left run are taken off one by one.
  induction left with
  | nil => simp [surplus]
  | cons token tail ih =>
    simp only [List.cons_append, surplus, ih]
    omega

/-- An operator that an operand stands behind is finished. -/
theorem unfinished_operator_of_begins {op : Operator}
    (begins : rest.head?.any beginsOperand = true) :
    unfinished (operator op :: rest) = unfinished rest := by
  -- What begins an operand is not a closing parenthesis.
  cases rest with
  | nil => rfl
  | cons next tail => cases next <;> simp_all [beginsOperand, unfinished]

/-- A run that passes has as many operands as operators, one more where it begins with an operand,
and one less for every operator that is unfinished. -/
theorem surplus_of_checkFrom (balanced : closed ≤ opened) (ends : EndsComplete rest)
    (checked : checkFrom accepts opened closed rest = .ok ()) :
    (mayFollowOperand rest.head? = true → surplus rest + unfinished rest = 0) ∧
    (rest.head?.any beginsOperand = true → surplus rest + unfinished rest = 1) := by
  -- Behind an operand as many operators as operands follow, and before one there is one less.
  induction rest generalizing opened closed with
  | nil => simp [surplus, unfinished]
  | cons token rest ih =>
    have fits := fits_of_checkFrom balanced ends checked
    have passed := (checkFrom_cons.mp checked).2
    constructor
    · intro follows
      cases token with
      -- Closing a parenthesis leaves the count as it is.
      | rightParen =>
        have counted := (ih (by have more := fits.1; simp [opens, closes]; omega)
          ends.tail passed).1 fits.2
        simpa [surplus, weight, unfinished] using counted
      | operator op =>
        obtain ⟨behind, before⟩ := ih balanced ends.tail passed
        rcases fits with begins | closing
        · -- The operator is made up for by the operand behind it.
          have counted := before begins
          rw [unfinished_operator_of_begins begins]
          simp only [surplus, weight]
          omega
        · cases rest with
          -- Before a parenthesis that closes, the operator counts as unfinished instead.
          | nil => simp at closing
          | cons next tail =>
            obtain rfl : next = rightParen := by simpa using closing
            have counted := behind rfl
            simp only [surplus, weight, unfinished] at counted ⊢
            omega
      | _ => simp [mayFollowOperand] at follows
    · intro begins
      cases token with
      | leftParen =>
        -- The operand is what the parenthesis opens with.
        have counted := (ih (by simp [opens, closes]; omega) ends.tail passed).2 fits
        simpa [surplus, weight, unfinished] using counted
      | number value =>
        -- The operand counts one, and what follows it counts none.
        have counted := (ih balanced ends.tail passed).1 fits
        simp only [surplus, weight, unfinished] at counted ⊢
        omega
      | reference name =>
        have counted := (ih balanced ends.tail passed).1 fits.2
        simp only [surplus, weight, unfinished] at counted ⊢
        omega
      | _ => simp [beginsOperand] at begins

/-- A run that begins with an operand does so whatever stands behind it. -/
theorem begins_append (begins : tokens.head?.any beginsOperand = true) (rest : List (Token ν)) :
    (tokens ++ rest).head?.any beginsOperand = true := by
  -- A run that begins with something is not empty, and its first token stays in front.
  cases tokens with
  | nil => simp at begins
  | cons first tail => exact begins

/-- An expression begins with an operand, ends without an operator and holds nothing invalid. -/
theorem compositional_shape : Compositional fun tokens : List (Token ν) =>
    tokens.head?.any beginsOperand = true ∧ EndsComplete tokens ∧
      ∀ text, invalid text ∉ tokens := by
  -- Parentheses hide the ends of what they hold, and an operation has the ends of its operands.
  refine ⟨fun value => ?_, fun name => ?_, fun inner kept => ?_, fun left op right l r => ?_⟩
  · simp [beginsOperand, EndsComplete]
  · simp [beginsOperand, EndsComplete]
  · refine ⟨rfl, ?_, by simp [kept.2.2]⟩
    exact EndsComplete.append (leftParen :: inner) (by simp [EndsComplete]) (by simp)
  · -- The operation begins with its left run and ends with its right one.
    obtain ⟨leftBegins, -, leftValid⟩ := l
    obtain ⟨rightBegins, rightEnds, rightValid⟩ := r
    have nonempty : right ≠ [] := by
      rintro rfl
      simp at rightBegins
    refine ⟨begins_append leftBegins _, ?_, ?_⟩
    · -- The right run is not empty, so that its end is that of the whole.
      rw [← List.singleton_append, ← List.append_assoc]
      exact rightEnds.append (left ++ [operator op]) nonempty
    · intro text member
      rcases List.mem_append.mp member with inLeft | inRight
      · exact leftValid text inLeft
      · exact rightValid text (by simpa using inRight)

/-- An expression has one operand in excess of its operators. -/
theorem compositional_surplus : Compositional fun tokens : List (Token ν) => surplus tokens = 1 := by
  -- An operand counts one, parentheses count nothing, and an operator takes off what its right
  -- operand adds.
  refine ⟨fun value => rfl, fun name => rfl, fun inner kept => ?_, fun left op right l r => ?_⟩
  · simp [surplus, surplus_append, weight, kept]
  · simp [surplus, surplus_append, weight, l, r]

/-- A token that fits in front of the next one breaks no rule. -/
theorem broken?_eq_none {next : Option (Token ν)} (fits : token.Fits accepts opened closed next) :
    token.broken? accepts opened closed next = none := by
  -- Each rule asks for no more than what fits behind its token.
  cases token with
  | leftParen =>
    -- What begins an operand is neither an operator nor a parenthesis that closes.
    cases next with
    | none => rfl
    | some token => cases token <;> simp_all [Fits, broken?, beginsOperand]
  | rightParen => simp [broken?, fits.2, Nat.not_le.mpr fits.1]
  | operator op =>
    -- Behind an operator only another operator is barred.
    cases next with
    | none => rfl
    | some token => cases token <;> simp_all [Fits, broken?, beginsOperand, isOperator]
  | number value =>
    have follows : mayFollowOperand next = true := fits
    simp [broken?, follows]
  | reference name => simp [broken?, fits.1, fits.2]
  | invalid text => exact fits.elim

/-- Whether a run passes wherever an operand may stand, with as many parentheses closed as opened. -/
def Passes (accepts : String → Bool) (tokens : List (Token ν)) : Prop :=
  ∃ pairs, ∀ opened closed rest, closed ≤ opened → mayFollowOperand rest.head? = true →
    checkFrom accepts opened closed (tokens ++ rest) =
      checkFrom accepts (opened + pairs) (closed + pairs) rest

/-- A run passes in parentheses if it passes and begins with an operand. -/
theorem Passes.parenthesized (passes : Passes accepts tokens)
    (begins : tokens.head?.any beginsOperand = true) :
    Passes accepts (leftParen :: (tokens ++ [rightParen])) := by
  -- Inside the parentheses one more is open, and what closes it may follow an operand itself.
  obtain ⟨pairs, passes⟩ := passes
  refine ⟨pairs + 1, fun opened closed rest balanced follows => ?_⟩
  calc checkFrom accepts opened closed (leftParen :: (tokens ++ [rightParen]) ++ rest)
    _ = checkFrom accepts opened closed (leftParen :: (tokens ++ rightParen :: rest)) := by simp
    _ = checkFrom accepts (opened + 1) closed (tokens ++ rightParen :: rest) :=
      checkFrom_step (broken?_eq_none (begins_append begins _))
    _ = checkFrom accepts (opened + 1 + pairs) (closed + pairs) (rightParen :: rest) :=
      passes (opened + 1) closed _ (by omega) rfl
    _ = checkFrom accepts (opened + 1 + pairs) (closed + pairs + 1) rest :=
      checkFrom_step (broken?_eq_none ⟨by omega, follows⟩)
    _ = checkFrom accepts (opened + (pairs + 1)) (closed + (pairs + 1)) rest := by
      rw [Nat.add_assoc closed, Nat.add_assoc opened, Nat.add_comm 1]

/-- Two runs that pass do so with an operator between them if the second begins with an operand. -/
theorem Passes.joined (leftPasses : Passes accepts left) (op : Operator)
    (rightPasses : Passes accepts tokens) (begins : tokens.head?.any beginsOperand = true) :
    Passes accepts (left ++ operator op :: tokens) := by
  -- The left run is followed by the operator, and the operator by what begins the right one.
  obtain ⟨before, leftPasses⟩ := leftPasses
  obtain ⟨behind, rightPasses⟩ := rightPasses
  refine ⟨before + behind, fun opened closed rest balanced follows => ?_⟩
  calc checkFrom accepts opened closed (left ++ operator op :: tokens ++ rest)
    _ = checkFrom accepts opened closed (left ++ operator op :: (tokens ++ rest)) := by simp
    _ = checkFrom accepts (opened + before) (closed + before) (operator op :: (tokens ++ rest)) :=
      leftPasses opened closed _ balanced rfl
    _ = checkFrom accepts (opened + before) (closed + before) (tokens ++ rest) :=
      checkFrom_step (broken?_eq_none (Or.inl (begins_append begins rest)))
    _ = checkFrom accepts (opened + before + behind) (closed + before + behind) rest :=
      rightPasses _ _ _ (by omega) follows
    _ = checkFrom accepts (opened + (before + behind)) (closed + (before + behind)) rest := by
      rw [Nat.add_assoc, Nat.add_assoc]

/-- An expression passes if its variables are accepted. -/
theorem compositional_passes : Compositional fun tokens : List (Token ν) =>
    tokens.head?.any beginsOperand = true ∧
      ((∀ name, reference name ∈ tokens → accepts name = true) → Passes accepts tokens) := by
  -- In front of what may follow an operand, each rule is met by the run and by what it is followed
  -- with.
  refine ⟨fun value => ?_, fun name => ?_, fun inner kept => ?_, fun left op right l r => ?_⟩
  · exact ⟨rfl, fun _ => ⟨0, fun opened closed rest _ follows =>
      checkFrom_step (broken?_eq_none follows)⟩⟩
  · exact ⟨rfl, fun accepted => ⟨0, fun opened closed rest _ follows =>
      checkFrom_step (broken?_eq_none ⟨accepted name (by simp), follows⟩)⟩⟩
  · -- The variables in parentheses are those of the run.
    refine ⟨rfl, fun accepted => ?_⟩
    exact (kept.2 fun name member => accepted name (by simp [member])).parenthesized kept.1
  · -- The variables of both operands are among those of the operation.
    refine ⟨begins_append l.1 _, fun accepted => ?_⟩
    have leftPasses := l.2 fun name member => accepted name (by simp [member])
    have rightPasses := r.2 fun name member => accepted name (by simp [member])
    exact leftPasses.joined op rightPasses r.1

/-- The variables of a run that passes are accepted. -/
theorem accepts_of_checkFrom (checked : checkFrom accepts opened closed rest = .ok ()) :
    ∀ name, reference name ∈ rest → accepts name = true := by
  -- Every variable is looked at where it stands.
  induction rest generalizing opened closed with
  | nil => simp
  | cons token rest ih =>
    obtain ⟨unbroken, passed⟩ := checkFrom_cons.mp checked
    intro name member
    rcases List.mem_cons.mp member with rfl | later
    · cases accepted : accepts name with
      | true => rfl
      | false => simp [broken?, accepted] at unbroken
    · exact ih passed name later

/-- A run that passes the check begins with an operand. -/
theorem begins_of_check (checked : check accepts tokens = .ok ()) :
    tokens.head?.any beginsOperand = true := by
  obtain ⟨⟨first, head, operand⟩, ends, valid, passed⟩ := check_eq_ok_iff.mp checked
  cases tokens with
  | nil => simp at head
  | cons token rest =>
    obtain rfl : token = first := by simpa using head
    -- No parenthesis has been opened that a first one could close.
    have fits := fits_of_checkFrom (Nat.le_refl 0) ends passed
    cases token with
    | operator op => simp [isOperator] at operand
    | rightParen => exact absurd fits.1 (Nat.lt_irrefl 0)
    | invalid text => exact fits.elim
    | _ => rfl

/-- An expression passes the check if its variables are accepted. -/
theorem check_expression (tree : Expression ν)
    (accepted : ∀ name, reference name ∈ tree.tokens → accepts name = true) :
    check accepts tree.tokens = .ok () := by
  -- The ends are right by the shape of expressions, and every token passes with nothing open and
  -- nothing behind.
  obtain ⟨begins, ends, valid⟩ := compositional_shape.expression tree
  obtain ⟨pairs, passes⟩ := (compositional_passes.expression tree).2 accepted
  refine check_eq_ok_iff.mpr ⟨?_, ends, valid, ?_⟩
  · cases tokens : tree.tokens with
    | nil => simp [tokens] at begins
    | cons first rest =>
      refine ⟨first, rfl, ?_⟩
      cases first <;> simp_all [beginsOperand, isOperator]
  · simpa [checkFrom] using passes 0 0 [] (Nat.le_refl 0) rfl

/-- A run that passes the check has one operand in excess of its operators, and one less for every
operator that is unfinished. -/
theorem surplus_of_check (checked : check accepts tokens = .ok ()) :
    surplus tokens + unfinished tokens = 1 := by
  -- The whole run stands at the place of an operand.
  obtain ⟨-, ends, -, passed⟩ := check_eq_ok_iff.mp checked
  exact (surplus_of_checkFrom (Nat.le_refl 0) ends passed).2 (begins_of_check checked)

/-- An expression has no operator that is unfinished. -/
theorem unfinished_expression (tree : Expression ν) : unfinished tree.tokens = 0 := by
  -- Operands and operators are counted once by the grammar and once by the check.
  have checked : check (fun _ => true) tree.tokens = .ok () := check_expression tree fun _ _ => rfl
  have counted := surplus_of_check checked
  have surplus := compositional_surplus.expression tree
  omega

/-- A run that passes the check and leaves no operator unfinished is an expression. -/
theorem isExpression_of_check (checked : check accepts tokens = .ok ())
    (finished : unfinished tokens = 0) : IsExpression tokens := by
  -- The whole run stands at the place of an operand with nothing open and nothing at its left.
  obtain ⟨-, ends, -, passed⟩ := check_eq_ok_iff.mp checked
  have outermost : ∀ left ∈ ([] : List (List (Token ν))), Leads left := by simp
  have completes := completes_of_checkFrom outermost rfl ends finished passed
  exact completes.before [] (Or.inl rfl) (begins_of_check checked)

/-- No rule looks at the spelling of a variable that is accepted. -/
theorem broken?_mapReference (spell : String → String) {next : Option (Token ν)}
    (unbroken : token.broken? accepts opened closed next = none) :
    (token.mapReference spell).broken? (fun _ => true) opened closed
      (next.map (mapReference spell)) = none := by
  -- The next token is only asked for its kind, which no spelling changes.
  have follows : mayFollowOperand (next.map (mapReference spell)) = mayFollowOperand next := by
    cases next with
    | none => rfl
    | some token => cases token <;> rfl
  cases token with
  | leftParen | operator op =>
    cases next with
    | none => rfl
    | some token => cases token <;> exact unbroken
  | reference name =>
    -- Whatever variable was accepted, all are accepted now.
    simp only [broken?] at unbroken
    split at unbroken
    · simp at unbroken
    · simpa [broken?, mapReference, follows] using unbroken
  | _ => simpa only [broken?, mapReference, follows] using unbroken

/-- Another spelling of the variables leaves a run as passable as it was. -/
theorem checkFrom_mapReference (spell : String → String)
    (checked : checkFrom accepts opened closed rest = .ok ()) :
    checkFrom (fun _ => true) opened closed (rest.map (mapReference spell)) = .ok () := by
  -- The rules are met token by token, and the parentheses stay where they are.
  induction rest generalizing opened closed with
  | nil => simpa [checkFrom] using checked
  | cons token rest ih =>
    obtain ⟨unbroken, passed⟩ := checkFrom_cons.mp checked
    refine checkFrom_cons.mpr ⟨?_, ?_⟩
    · rw [List.head?_map]
      exact broken?_mapReference spell unbroken
    · cases token <;> exact ih passed

/-- Another spelling of the variables leaves every other token where it is. -/
theorem check_mapReference (spell : String → String) (checked : check accepts tokens = .ok ()) :
    check (fun _ => true) (tokens.map (mapReference spell)) = .ok () := by
  -- The rules for the whole run ask for the kinds of tokens only.
  obtain ⟨⟨first, head, operand⟩, ends, valid, passed⟩ := check_eq_ok_iff.mp checked
  refine check_eq_ok_iff.mpr ⟨?_, ?_, ?_, checkFrom_mapReference spell passed⟩
  · -- The first token is of the same kind.
    refine ⟨first.mapReference spell, by simp [head], ?_⟩
    cases first <;> exact operand
  · -- The last token was an operator before if it is one now.
    intro op last
    rw [List.getLast?_map, Option.map_eq_some_iff] at last
    obtain ⟨token, atEnd, same⟩ := last
    cases token <;> simp [mapReference] at same
    exact ends op (same ▸ atEnd)
  · -- No spelling makes a token invalid.
    intro text member
    obtain ⟨token, inside, same⟩ := List.mem_map.mp member
    cases token <;> simp [mapReference] at same
    exact valid text (same ▸ inside)

end Worksheet.Token

namespace Worksheet.Formula

open Token

/-- A text is a formula if its tokens pass the check, and the formula normalizes their variables. -/
theorem ofText_eq_ok {naming : Naming} {text : String} {f : Formula} :
    ofText naming text = .ok f ↔
      check (acceptsVariable naming) (Token.ofText text) = .ok () ∧
        f = ⟨(Token.ofText text).map (mapReference naming.normalize)⟩ := by
  -- What fails the check is no formula, and nothing else is looked at.
  cases checked : check (acceptsVariable naming) (Token.ofText text) with
  | error error => simp [ofText, checked, Bind.bind, Except.bind]
  | ok _ => simp [ofText, checked, Bind.bind, Except.bind, Pure.pure, Except.pure, eq_comm]

/-- The tokens of a formula pass the check, whichever variables it accepts. -/
theorem check_of_ofText {naming : Naming} {text : String} {f : Formula}
    (read : ofText naming text = .ok f) : check (fun _ => true) f.tokens = .ok () := by
  -- The check came before the variables were normalized.
  obtain ⟨checked, rfl⟩ := ofText_eq_ok.mp read
  exact check_mapReference naming.normalize checked

end Worksheet.Formula

namespace Worksheet.Token

/-- A run passes the check with all its operators finished exactly if it holds nothing invalid, its
variables are accepted and it is an expression, and so a formula is an expression exactly if its
operators are all finished. -/
theorem check_finished_iff (ν : Type) (accepts : String → Bool) (tokens : List (Token ν)) :
    ((check accepts tokens = .ok () ∧ Finished tokens) ↔
      (∀ text, invalid text ∉ tokens) ∧
        (∀ name, reference name ∈ tokens → accepts name = true) ∧ IsExpression tokens) ∧
    ∀ (naming : Naming) (text : String) (f : Formula), Formula.ofText naming text = .ok f →
      (Finished f.tokens ↔ IsExpression f.tokens) := by
  -- A finished run is one without unfinished operators, whose number the check accounts for.
  simp only [← unfinished_eq_zero_iff]
  refine ⟨⟨?_, ?_⟩, fun naming text f read => ⟨?_, ?_⟩⟩
  · rintro ⟨checked, finished⟩
    obtain ⟨-, -, valid, passed⟩ := check_eq_ok_iff.mp checked
    exact ⟨valid, accepts_of_checkFrom passed, isExpression_of_check checked finished⟩
  · rintro ⟨-, accepted, tree, rfl⟩
    exact ⟨check_expression tree accepted, unfinished_expression tree⟩
  · exact isExpression_of_check (Formula.check_of_ofText read)
  · rintro ⟨tree, spelled⟩
    exact spelled ▸ unfinished_expression tree

/-- A product with a sum in parentheses is a formula that is finished, and so it is an expression. -/
theorem check_finished_parenthesized :
    let tokens := [leftParen, number (⟨0x4008000000000000⟩ : Double), operator .add,
      number ⟨0x4010000000000000⟩, rightParen, operator .mul, number ⟨0x4000000000000000⟩]
    Formula.ofText .plain "(3+4)*2" = .ok ⟨tokens⟩ ∧ IsExpression tokens := by
  intro tokens
  have spelled : ofText "(3+4)*2" = tokens := by decide +kernel
  have read : Formula.ofText .plain "(3+4)*2" = .ok ⟨tokens⟩ := by
    rw [Formula.ofText, spelled]
    rfl
  have formulas :=
    (check_finished_iff Double (Formula.acceptsVariable .plain) (ofText "(3+4)*2")).2
  -- Neither operator stands before the closing parenthesis.
  exact ⟨read, (formulas .plain "(3+4)*2" _ read).mp (unfinished_eq_zero_iff.mp rfl)⟩

/-- An operator before a closing parenthesis is let through although no expression has one. -/
theorem check_unfinished :
    check (Formula.acceptsVariable .plain) (ofText "(3+)") = .ok () ∧
      Formula.ofText .plain "(3+)" = .ok ⟨ofText "(3+)"⟩ ∧ ¬IsExpression (ofText "(3+)") := by
  -- The run has one unfinished operator, and an expression has none.
  have tokens : ofText "(3+)" =
      [leftParen, number ⟨0x4008000000000000⟩, operator .add, rightParen] := by
    decide +kernel
  rw [Formula.ofText, tokens]
  refine ⟨rfl, rfl, ?_⟩
  rintro ⟨tree, spelled⟩
  have finished := unfinished_expression tree
  rw [spelled] at finished
  exact absurd finished (by decide)

end Worksheet.Token
