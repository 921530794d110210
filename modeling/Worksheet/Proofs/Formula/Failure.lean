import Worksheet.Proofs.Formula.Evaluation

/-!
Why an evaluation gives no value: it stops at the first variable that has no number, or its operators
and parentheses fail by themselves.
-/

namespace Worksheet

variable {ν : Type} [Arithmetic ν] {lookup : String → Except LookupError ν}
  {tokens rest : List (Token ν)} {reason : Reason}

namespace Stacks

variable {state between : Stacks ν} {values : List ν} {pending : List Pending} {name : String}
  {error : LookupError}

/-- Whether a run of tokens stops at a variable: all tokens before it are taken, and it has no
number. -/
def StopsAt (lookup : String → Except LookupError ν) (state : Stacks ν) (tokens : List (Token ν))
    (name : String) (error : LookupError) : Prop :=
  ∃ before after between, tokens = before ++ .reference name :: after ∧
    run lookup before state = .ok between ∧ lookup name = .error error

/-- Only variables of the tokens are stopped at. -/
theorem StopsAt.mem (stops : StopsAt lookup state tokens name error) :
    .reference name ∈ tokens := by
  -- The variable stands between what was taken and what was not reached.
  obtain ⟨before, after, between, rfl, -, -⟩ := stops
  simp

/-- A variable that is stopped at has no number. -/
theorem StopsAt.lookup_eq (stops : StopsAt lookup state tokens name error) :
    lookup name = .error error := by
  -- That is why the evaluation stops there.
  obtain ⟨before, after, between, -, -, failed⟩ := stops
  exact failed

/-- A run that stops at a variable fails for its reason. -/
theorem StopsAt.run_eq (stops : StopsAt lookup state tokens name error) :
    run lookup tokens state = .error error.reason := by
  obtain ⟨before, after, between, rfl, taken, failed⟩ := stops
  have refused : step lookup between (.reference name) = .error error.reason := by
    simp only [step, failed]
  -- Nothing is taken behind the variable.
  rw [run_append, taken]
  show run lookup (.reference name :: after) between = .error error.reason
  rw [run_cons, refused]
  rfl

/-- A run stops where its first token lets it go on to stop. -/
theorem StopsAt.cons {token : Token ν} (taken : step lookup state token = .ok between)
    (stops : StopsAt lookup between rest name error) :
    StopsAt lookup state (token :: rest) name error := by
  -- The run before the variable begins one token earlier.
  obtain ⟨before, after, last, rfl, run, failed⟩ := stops
  refine ⟨token :: before, after, last, rfl, ?_, failed⟩
  rw [run_cons, taken]
  exact run

/-- An operator fails where it divides by zero or has no two operands. -/
theorem fold_error {op : Operator} (failed : fold op values pending = .error reason) :
    reason = .malformed ∨ reason = .divisionByZero := by
  -- Operands that are missing are the only other way to fail.
  unfold fold at failed
  split at failed
  · rcases bind_eq_error.mp failed with refused | ⟨value, -, impossible⟩
    · exact Or.inr (Operator.apply_error refused)
    · simp [Pure.pure, Except.pure] at impossible
  · exact Or.inl (Except.error.inj failed).symm

/-- An operator that waits fails where it divides by zero or has no two operands. -/
theorem foldIf_error {additive : Bool} (failed : foldIf additive state = .error reason) :
    reason = .malformed ∨ reason = .divisionByZero := by
  -- Only an operator that is applied can fail.
  simp only [foldIf] at failed
  split at failed
  · split at failed
    · exact fold_error failed
    · simp at failed
  · simp at failed

/-- A token fails if it is a variable without a number, or where an operator that waits does. -/
theorem step_error {token : Token ν} (failed : step lookup state token = .error reason) :
    (∃ name error, token = .reference name ∧ lookup name = .error error) ∨
      reason = .malformed ∨ reason = .divisionByZero := by
  -- Every kind of token may set off an operator that waits, and a variable is looked up.
  cases token with
  | number value => exact Or.inr (foldIf_error failed)
  | reference name =>
    -- A variable fails by itself, or by what its number sets off.
    simp only [step] at failed
    split at failed
    · exact Or.inr (foldIf_error failed)
    · rename_i error found
      exact Or.inl ⟨name, error, rfl, found⟩
  | operator op =>
    simp only [step] at failed
    split at failed
    · -- A weak operator sets off the one that waits before it.
      rcases bind_eq_error.mp failed with refused | ⟨folded, -, impossible⟩
      · exact Or.inr (foldIf_error refused)
      · simp [Pure.pure, Except.pure] at impossible
    · simp at failed
  | leftParen => simp [step] at failed
  | rightParen =>
    -- On closing, an operator is applied on either side of the parenthesis, or the parenthesis is
    -- missing.
    rcases bind_eq_error.mp failed with refused | ⟨folded, -, closed⟩
    · exact Or.inr (foldIf_error refused)
    · split at closed
      · exact Or.inr (foldIf_error closed)
      · exact Or.inr (Or.inl (Except.error.inj closed).symm)
  | invalid text => exact Or.inr (Or.inl (Except.error.inj failed).symm)

/-- A run of tokens fails because it stops at a variable, or where an operator does. -/
theorem run_error (failed : run lookup tokens state = .error reason) :
    (∃ name error, StopsAt lookup state tokens name error) ∨
      reason = .malformed ∨ reason = .divisionByZero := by
  -- The first token that fails gives the reason.
  induction tokens generalizing state with
  | nil => simp at failed
  | cons token rest ih =>
    rcases bind_eq_error.mp failed with first | ⟨between, taken, later⟩
    · rcases step_error first with ⟨name, error, rfl, found⟩ | own
      · exact Or.inl ⟨name, error, [], rest, state, rfl, rfl, found⟩
      · exact Or.inr own
    · rcases ih later with ⟨name, error, stops⟩ | own
      · exact Or.inl ⟨name, error, stops.cons taken⟩
      · exact Or.inr own

/-- A result is missing where the last operator fails or something is left over. -/
theorem result_error (failed : state.result = .error reason) :
    reason = .malformed ∨ reason = .divisionByZero := by
  -- Both ways to a result end in the same look at what is left.
  unfold result at failed
  dsimp only at failed
  split at failed
  · -- Nothing waits, so that one value has to be left.
    rcases bind_eq_error.mp failed with impossible | ⟨folded, -, remains⟩
    · cases impossible
    · split at remains
      · simp at remains
      · exact Or.inl (Except.error.inj remains).symm
  · -- The last operator may divide by zero.
    rcases bind_eq_error.mp failed with refused | ⟨folded, -, remains⟩
    · exact fold_error refused
    · split at remains
      · simp at remains
      · exact Or.inl (Except.error.inj remains).symm
  · exact Or.inl (Except.error.inj failed).symm

end Stacks

namespace Token

open Stacks

/-- Tokens at whose variable an evaluation stops have no value for the reason of that variable. -/
theorem evaluate_of_stopsAt {name : String} {error : LookupError}
    (stops : StopsAt lookup empty tokens name error) :
    evaluate lookup tokens = .error error.reason := by
  -- A run that has stopped leaves nothing to take a result from.
  show run lookup tokens empty >>= result = .error error.reason
  rw [stops.run_eq]
  rfl

/-- Tokens have no value only because the evaluation stops at a variable, whose reason it gives, or
because it stops at none and they are malformed or divide by zero. -/
theorem evaluate_error (failed : evaluate lookup tokens = .error reason) :
    (∃ name error, StopsAt lookup empty tokens name error ∧ error.reason = reason) ∨
      (reason = .malformed ∨ reason = .divisionByZero) ∧
        ∀ name error, ¬StopsAt lookup empty tokens name error := by
  by_cases stopped : ∃ name error, StopsAt lookup empty tokens name error
  · -- There is but one reason, and so it is that of the variable.
    obtain ⟨name, error, stops⟩ := stopped
    have same := (evaluate_of_stopsAt stops).symm.trans failed
    exact Or.inl ⟨name, error, stops, Except.error.inj same⟩
  · refine Or.inr ⟨?_, fun name error stops => stopped ⟨name, error, stops⟩⟩
    -- The failure is met along the run or at its end.
    rcases bind_eq_error.mp failed with ran | ⟨state, -, left⟩
    · exact (run_error ran).resolve_left stopped
    · exact result_error left

end Token

end Worksheet
