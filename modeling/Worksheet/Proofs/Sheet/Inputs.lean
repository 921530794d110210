import Worksheet.Proofs.Formula.Canonical
import Worksheet.Proofs.Sheet.Sound

/-!
The inputs behind stored contents: whatever is stored was entered under some name, and the input that
it gives back is read as the same contents again.
-/

namespace Worksheet

open Text (isBlank)

namespace Contents

variable {naming : Naming} {input : String} {contents : Contents}

/-- What begins with the sign of formulas has a text behind it. -/
theorem exists_of_sign (signed : input.startsWith '=' = true) :
    ∃ text : String, input.toList = '=' :: text.toList := by
  -- The sign is the first character, and the text is the others.
  rw [String.startsWith_char_eq_head?, beq_iff_eq] at signed
  obtain ⟨rest, spelled⟩ := List.head?_eq_some_iff.mp signed
  exact ⟨String.ofList rest, by rw [spelled, String.toList_ofList]⟩

/-- A text that begins with the sign of formulas is no number. -/
theorem read?_of_sign {rest : List Char} (signed : input.toList = '=' :: rest) :
    Double.read? input = none :=
  Double.read?_eq_none signed (by decide) (by decide) (by decide) (by decide)

/-- What stands behind the sign of formulas is read as a formula. -/
theorem ofInput_sign (naming : Naming) (text : String) :
    ofInput naming ("=" ++ text) = (Formula.ofText naming text).map fun f => some (.formula f) := by
  -- An input with the sign spells no number.
  have signed : ("=" ++ text).toList = '=' :: text.toList := String.toList_append
  exact ofInput_signed signed (read?_of_sign signed)

/-- An input that spells a number is read as it. -/
theorem ofInput_number {value : Double} (number : Double.read? input = some value) :
    ofInput naming input = .ok (some (.number value)) := by
  -- No number is spelled by an empty text.
  have nonempty : ¬input.isEmpty = true := by
    rw [String.isEmpty_iff]
    rintro rfl
    have none : Double.read? "" = none := by decide +kernel
    rw [none] at number
    cases number
  rw [ofInput, if_neg nonempty, number]

/-- What is read from an input is the number that it spells, the formula behind its sign, or the
input itself. -/
theorem ofInput_cases (read : ofInput naming input = .ok (some contents)) :
    (∃ value, Double.read? input = some value ∧ contents = .number value) ∨
    (∃ text f, input.toList = '=' :: text.toList ∧ Formula.ofText naming text = .ok f ∧
      contents = .formula f) ∨
    Double.read? input = none ∧ (∀ c ∈ input.toList.head?, c ≠ '=') ∧ contents = .text input := by
  unfold ofInput at read
  split at read
  · -- An empty input has no contents.
    simp at read
  · split at read
    · rename_i value number
      cases read
      exact Or.inl ⟨value, number, rfl⟩
    · -- The sign of formulas is looked for in what is no number.
      rename_i number
      split at read
      · rename_i rest signed
        obtain ⟨f, formula, same⟩ := bind_eq_ok.mp read
        cases same
        exact Or.inr (Or.inl ⟨_, f, by rw [signed, String.toList_ofList], formula, rfl⟩)
      · -- Whatever is left is taken as it is.
        rename_i signless
        cases read
        refine Or.inr (Or.inr ⟨number, ?_, rfl⟩)
        rintro c first rfl
        obtain ⟨rest, signed⟩ := List.head?_eq_some_iff.mp first
        exact signless rest signed

/-- The input of contents that were read from some input is read as those contents again. -/
theorem ofInput_input (stable : naming.Stable) (read : ofInput naming input = .ok (some contents)) :
    ofInput naming contents.input = .ok (some contents) := by
  rcases ofInput_cases read with ⟨value, number, rfl⟩ | ⟨text, f, -, formula, rfl⟩ | ⟨-, -, rfl⟩
  · exact ofInput_number (Double.read?_text (Double.finite_of_read? number))
  · -- The variables of the formula are normalized for good.
    have again : Formula.ofText naming f.canonical = .ok f := by
      refine Formula.ofText_canonical formula fun v member => ?_
      obtain ⟨written, rfl, legal, accepted⟩ :=
        Formula.acceptsVariable_of_mem_references formula member
      exact ⟨stable written legal, accepted⟩
    rw [Contents.input, ofInput_sign, again]
    rfl
  · -- A text is its own input.
    exact read

/-- The input of contents other than a text has no blanks. -/
theorem isBlank_of_mem_input {c : Char} (read : ofInput naming input = .ok (some contents))
    (textless : ∀ text, contents ≠ .text text) (member : c ∈ contents.input.toList) :
    isBlank c = false := by
  -- Numbers and canonical formulas are written without blanks, and a text is excluded.
  rcases ofInput_cases read with ⟨value, number, rfl⟩ | ⟨text, f, -, formula, rfl⟩ | ⟨-, -, rfl⟩
  · exact Double.isBlank_of_mem_text (Double.finite_of_read? number) member
  · rw [Contents.input, String.toList_append] at member
    rcases List.mem_append.mp member with sign | inside
    · rw [List.mem_singleton.mp sign]
      decide
    · exact Formula.isBlank_of_mem_canonical formula inside
  · exact absurd rfl (textless input)

end Contents

namespace Sheet

variable {settings : Settings} {sheet : Sheet} {name : String} {contents : Contents}

/-- The settings decide which cell a name stands for. -/
theorem cellName?_congr {other : Sheet} (same : other.settings = sheet.settings) (name : String) :
    other.cellName? name = sheet.cellName? name := by
  rw [cellName?, same, cellName?]

/-- Whatever is stored on a reachable sheet was entered under a name that stands for its cell. -/
theorem Reachable.exists_entered (reachable : Reachable settings sheet)
    (holds : sheet.stored? name = some contents) :
    ∃ written input, sheet.cellName? written = some name ∧
      Contents.ofInput settings.naming input = .ok (some contents) := by
  induction reachable with
  | empty => simp [stored?, Sheet.empty] at holds
  | @set before written input reachable ih =>
    have consistent := reachable.sound.consistent
    have names := cellName?_congr (set_settings consistent written input)
    simp only [names]
    rcases set_cases consistent written input with
      ⟨error, refused⟩ | ⟨target, entered, order, named, read, -, done⟩
    · -- A refused edit stores nothing.
      rw [refused] at holds
      exact ih holds
    · -- The recalculation changes no contents, so that only what was read is new.
      obtain ⟨-, -, stored⟩ := recalculate_frame (before.placed target entered) order
      rw [done] at holds
      have placed := (stored name).symm.trans holds
      rw [stored?_placed] at placed
      split at placed
      · -- The contents are those of this edit.
        rename_i same
        rw [reachable.settings_eq, placed] at read
        exact ⟨written, input, same ▸ named, read⟩
      · exact ih placed
  | markSaved _ ih => exact ih holds

/-- Under a stable normalization the name of a stored cell stands for that cell. -/
theorem Reachable.cellName?_of_stored? (reachable : Reachable settings sheet)
    (stable : settings.naming.Stable) (holds : sheet.stored? name = some contents) :
    sheet.cellName? name = some name := by
  obtain ⟨written, -, named, -⟩ := reachable.exists_entered holds
  obtain ⟨normalized, cellName, accepted⟩ := cellName?_eq_some named
  -- Cell names are variables, so that normalizing once more changes nothing.
  have fixed : sheet.settings.naming.normalize name = name := by
    have legal := isVariable_of_isCellName cellName
    rw [normalized, reachable.settings_eq] at legal ⊢
    exact stable written legal
  simp [cellName?, fixed, cellName, accepted]

end Sheet

end Worksheet
