import Worksheet.Proofs.Formula.Evaluation
import Worksheet.Sheet.Cell

/-!
What can be entered into a cell: numbers are finite, no text is empty, and the variables of a formula
are normalized, legal and allowed.
-/

namespace Worksheet

/-- A text is read as a number only if the number is finite. -/
theorem Double.finite_of_read? {text : String} {value : Double}
    (read : Double.read? text = some value) : value.isFinite = true := by
  -- A number that is too large is not read.
  unfold Double.read? at read
  dsimp only at read
  split at read
  · split at read
    · rename_i finite
      exact Option.some.inj read ▸ finite
    · simp at read
  · simp at read

/-- Every number among the tokens of a text is finite. -/
theorem Token.finite_of_ofText {text : String} {value : Double}
    (member : number value ∈ Token.ofText text) : value.isFinite = true := by
  obtain ⟨piece, -, spelled⟩ := List.mem_filterMap.mp member
  -- Only a literal stands for a number, and it is an invalid token where it is too large.
  cases piece with
  | blanks run => simp [Piece.token?] at spelled
  | stray run => simp [Piece.token?] at spelled
  | lexeme l =>
    cases l with
    | literal value =>
      simp only [Piece.token?, Lexeme.token, Option.some.injEq] at spelled
      split at spelled
      · -- A number is only made of a literal with a finite value.
        rename_i finite
        cases spelled
        exact finite
      · simp at spelled
    | _ => simp [Piece.token?, Lexeme.token] at spelled

namespace Formula

variable {naming : Naming} {text name : String} {f : Formula}

/-- The variables of a formula are those that its tokens refer to. -/
theorem mem_references : name ∈ f.references ↔ Token.reference name ∈ f.tokens := by
  -- Dropping repetitions loses no variable.
  simp only [references, List.mem_eraseDups, List.mem_filterMap]
  constructor
  · rintro ⟨token, member, refers⟩
    cases token with
    | reference other =>
      cases refers
      exact member
    | _ => simp [Token.reference?] at refers
  · intro member
    exact ⟨.reference name, member, rfl⟩

/-- A formula's variables are normalized ones that are legal and allowed. -/
theorem acceptsVariable_of_mem_references (read : ofText naming text = .ok f)
    (member : name ∈ f.references) :
    ∃ written, naming.normalize written = name ∧ isVariable name = true ∧
      naming.accepts name = true := by
  -- The variable stood in the checked tokens as it was written.
  obtain ⟨checked, rfl⟩ := ofText_eq_ok.mp read
  obtain ⟨-, -, -, passed⟩ := Token.check_eq_ok_iff.mp checked
  obtain ⟨token, written, same⟩ := List.mem_map.mp (mem_references.mp member)
  cases token with
  | reference spelling =>
    have accepted := Token.accepts_of_checkFrom passed spelling written
    cases same
    simp only [acceptsVariable, Bool.and_eq_true] at accepted
    exact ⟨spelling, rfl, accepted.1, accepted.2⟩
  | _ => simp [Token.mapReference] at same

/-- Every number in a formula is finite. -/
theorem finite_of_ofText {value : Double} (read : ofText naming text = .ok f)
    (member : Token.number value ∈ f.tokens) : value.isFinite = true := by
  -- Normalizing the variables touches no number.
  obtain ⟨-, rfl⟩ := ofText_eq_ok.mp read
  obtain ⟨token, written, same⟩ := List.mem_map.mp member
  cases token with
  | number other =>
    cases same
    exact Token.finite_of_ofText written
  | _ => simp [Token.mapReference] at same

end Formula

namespace Contents

/-- What a cell can hold once it is entered under some names. -/
inductive Entered (naming : Naming) : Contents → Prop
  | number {value : Double} (finite : value.isFinite = true) : Entered naming (.number value)
  | text {value : String} (nonempty : value ≠ "") : Entered naming (.text value)
  | formula {text : String} {value : Formula} (read : Formula.ofText naming text = .ok value) :
    Entered naming (.formula value)

variable {naming : Naming} {input text : String} {contents : Contents} {f : Formula}

/-- What stands behind the sign of formulas is read as a formula, unless the whole spells a number. -/
theorem ofInput_signed (signed : input.toList = '=' :: text.toList)
    (number : Double.read? input = none) :
    ofInput naming input = (Formula.ofText naming text).map fun f => some (.formula f) := by
  have nonempty : input.isEmpty = false := by
    rw [← Bool.not_eq_true, String.isEmpty_iff]
    intro empty
    simp [empty] at signed
  -- The sign is taken off, and what is left is the text of the formula.
  simp only [ofInput, nonempty, number, signed, String.ofList_toList]
  rfl

/-- A formula behind its sign is read as one, unless the whole spells a number. -/
theorem ofInput_formula (signed : input.toList = '=' :: text.toList)
    (number : Double.read? input = none) (read : Formula.ofText naming text = .ok f) :
    ofInput naming input = .ok (some (.formula f)) := by
  -- The text behind the sign is all that is read.
  rw [ofInput_signed signed number, read]
  rfl

/-- Whatever is read from an input can be held. -/
theorem entered_of_ofInput (read : ofInput naming input = .ok (some contents)) :
    contents.Entered naming := by
  -- The readings are tried in order: nothing, a number, a formula, and then any text.
  unfold ofInput at read
  split at read
  · simp at read
  · rename_i nonempty
    split at read
    · rename_i value number
      cases read
      exact .number (Double.finite_of_read? number)
    · split at read
      · -- With the sign the rest was read as a formula.
        obtain ⟨value, formula, same⟩ := bind_eq_ok.mp read
        cases same
        exact .formula formula
      · cases read
        exact .text (by simpa using nonempty)

end Contents

end Worksheet
