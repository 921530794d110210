import Worksheet.Naming

/-! The names of cells, and the normalizations that leave what they have normalized alone. -/

namespace Worksheet

namespace Text.LetterCase

variable {c d : Char} {cs : List Char} {first last : Nat} {shifts : List Shift}

/-- A number is the code point of the character made of it unless there is none. -/
theorem toNat_ofNat_cases (n : Nat) : (Char.ofNat n).toNat = n ∨ (Char.ofNat n).toNat = 0 := by
  -- A number that is no character stands for the null character.
  by_cases valid : n.isValidChar
  · rw [Char.ofNat, dif_pos valid]
    exact Or.inl rfl
  · rw [Char.ofNat, dif_neg valid]
    exact Or.inr rfl

/-- Whether every place that a shift leads to lies outside a range of code points. -/
def Shift.avoids (first last : Nat) (s : Shift) : Bool :=
  s.last + s.offset < first || last < s.first + s.offset

/-- No shift leads into a range that all the shifts avoid. -/
theorem shift_avoids (avoids : shifts.all (Shift.avoids first last) = true) (positive : 0 < first)
    (outside : last < c.toNat) :
    ¬(first ≤ (shift shifts c).toNat ∧ (shift shifts c).toNat ≤ last) := by
  -- A character stays where it is unless a shift of the table covers it.
  unfold shift
  dsimp only
  split
  · rename_i s found
    have covered := List.find?_some found
    have avoided := List.all_eq_true.mp avoids s (List.mem_of_find?_eq_some found)
    simp only [Bool.and_eq_true, decide_eq_true_eq] at covered
    simp only [Shift.avoids, Bool.or_eq_true, decide_eq_true_eq] at avoided
    -- A number that is no code point is replaced by zero.
    rcases toNat_ofNat_cases (c.toNat + s.offset).toNat with valid | invalid
    · rw [valid]
      omega
    · rw [invalid]
      omega
  · omega

/-- What is true of the 128 characters of ASCII is true of each. -/
theorem ascii {P : Char → Prop} (all : ∀ n < 128, P (Char.ofNat n)) (small : c.toNat < 128) :
    P c := by
  -- Every character is that of its own code point.
  have holds := all c.toNat small
  rwa [Char.ofNat_toNat] at holds

/-- Whether a character is a small letter of ASCII. -/
def IsSmall (c : Char) : Prop :=
  97 ≤ c.toNat ∧ c.toNat ≤ 122

/-- Whether a character is a capital of ASCII. -/
def IsCapital (c : Char) : Prop :=
  65 ≤ c.toNat ∧ c.toNat ≤ 90

instance : DecidablePred IsSmall := fun _ => inferInstanceAs (Decidable (_ ∧ _))

instance : DecidablePred IsCapital := fun _ => inferInstanceAs (Decidable (_ ∧ _))

/-- No capital is a small letter of ASCII. -/
theorem not_isSmall_of_upperChar (member : d ∈ upperChar c) : ¬IsSmall d := by
  -- ASCII is gone through, and beyond it the two tables are.
  unfold upperChar at member
  split at member
  · rename_i small
    rw [List.mem_singleton.mp member]
    exact @ascii c (fun c => ¬IsSmall c.toUpper) (by decide) small
  · rename_i large
    cases found : upperSpecials.lookup c with
    | none =>
      -- The table of shifts leads to no small letter of ASCII.
      rw [found, Option.getD_none, List.mem_singleton] at member
      rw [member]
      exact shift_avoids (by decide +kernel) (by omega) (by omega)
    | some capitals =>
      rw [found, Option.getD_some] at member
      -- The capitals that are listed one by one can be tried.
      have listed : upperSpecials.all
          (fun entry => entry.2.all fun d => !decide (IsSmall d)) = true := by
        decide +kernel
      obtain ⟨before, after, split, -⟩ := List.lookup_eq_some_iff.mp found
      have letters := List.all_eq_true.mp listed (c, capitals) (by simp [split])
      simpa using List.all_eq_true.mp letters d member

/-- A text without small letters of ASCII or letters beyond it has its own characters as capitals. -/
theorem flatMap_upperChar (fixed : ∀ c ∈ cs, c.toNat < 128 ∧ ¬IsSmall c) :
    cs.flatMap upperChar = cs := by
  -- Each character is its own capital.
  induction cs with
  | nil => rfl
  | cons c rest ih =>
    obtain ⟨small, capital⟩ := fixed c (by simp)
    have others := ih fun d member => fixed d (List.mem_cons_of_mem c member)
    have same := @ascii c (fun c => ¬IsSmall c → c.toUpper = c) (by decide) small capital
    rw [List.flatMap_cons, others, upperChar, if_pos small, same]
    rfl

/-- No small letter is a capital of ASCII. -/
theorem not_isCapital_of_lowerChar (member : d ∈ lowerChar c) : ¬IsCapital d := by
  -- ASCII is gone through, and beyond it the table is.
  unfold lowerChar at member
  split at member
  · rename_i small
    rw [List.mem_singleton.mp member]
    exact @ascii c (fun c => ¬IsCapital c.toLower) (by decide) small
  · split at member
    · -- The one capital with two characters for its small letter.
      rcases List.mem_cons.mp member with rfl | second
      · decide
      · rw [List.mem_singleton.mp second]
        decide
    · rw [List.mem_singleton.mp member]
      exact shift_avoids (by decide +kernel) (by omega) (by omega)

/-- No character of a text in small letters is a capital of ASCII. -/
theorem not_isCapital_of_lowerFrom {afterCased : Bool} (member : d ∈ lowerFrom afterCased cs) :
    ¬IsCapital d := by
  -- What a character becomes depends on its place for the sigma alone.
  induction cs generalizing afterCased with
  | nil => simp [lowerFrom] at member
  | cons c rest ih =>
    rw [lowerFrom, List.mem_append] at member
    rcases member with first | later
    · split at first
      · -- Both forms of the small sigma lie beyond ASCII.
        split at first
        · rw [List.mem_singleton.mp first]
          decide
        · rw [List.mem_singleton.mp first]
          decide
      · exact not_isCapital_of_lowerChar first
    · exact ih later

/-- A text without capitals of ASCII or letters beyond it has its own characters as small letters. -/
theorem lowerFrom_eq_self {afterCased : Bool} (fixed : ∀ c ∈ cs, c.toNat < 128 ∧ ¬IsCapital c) :
    lowerFrom afterCased cs = cs := by
  -- Without a sigma the place of a character does not matter.
  induction cs generalizing afterCased with
  | nil => rfl
  | cons c rest ih =>
    obtain ⟨small, letter⟩ := fixed c (by simp)
    have others : ∀ afterCased, lowerFrom afterCased rest = rest :=
      fun _ => ih fun d member => fixed d (List.mem_cons_of_mem c member)
    have same := @ascii c (fun c => ¬IsCapital c → c.toLower = c) (by decide) small letter
    have noSigma : c ≠ '\u03a3' := by
      rintro rfl
      exact absurd small (by decide)
    rw [lowerFrom, if_neg noSigma, others, lowerChar, if_pos small, same]
    rfl

end Text.LetterCase

/-- Whether every variable that a normalization gives is one that it leaves alone. -/
def Naming.Stable (naming : Naming) : Prop :=
  ∀ name, isVariable (naming.normalize name) = true →
    naming.normalize (naming.normalize name) = naming.normalize name

open Text.LetterCase

/-- A character that may continue a variable is one of ASCII. -/
theorem ascii_of_isVariableChar {c : Char} (continues : isVariableChar c = true) : c.toNat < 128 := by
  -- Letters and digits lie in ranges of ASCII.
  simp only [isVariableChar, Char.isAlphanum, Bool.or_eq_true, decide_eq_true_eq] at continues
  rcases continues with (letter | digit) | rfl
  · rcases Bool.or_eq_true_iff.mp letter with capital | small
    · have bounds : 'A'.val ≤ c.val ∧ c.val ≤ 'Z'.val := of_decide_eq_true capital
      exact Nat.lt_of_le_of_lt (UInt32.le_iff_toNat_le.mp bounds.2) (by decide)
    · have bounds : c.val ≤ 'z'.val := of_decide_eq_true (Bool.and_eq_true_iff.mp small).2
      exact Nat.lt_of_le_of_lt (UInt32.le_iff_toNat_le.mp bounds) (by decide)
  · exact Nat.lt_of_le_of_lt (Char.isDigit_iff_toNat.mp digit).2 (by decide)
  · decide

/-- A variable has no letters beyond ASCII. -/
theorem ascii_of_isVariable {name : String} (legal : isVariable name = true) :
    ∀ c ∈ name.toList, c.toNat < 128 := by
  unfold isVariable at legal
  split at legal
  · -- An empty name is no variable.
    simp at legal
  · rename_i first rest spelled
    simp only [Bool.and_eq_true, List.all_eq_true] at legal
    rw [spelled]
    intro c member
    rcases List.mem_cons.mp member with rfl | later
    · -- Whatever begins a variable may also continue one.
      apply ascii_of_isVariableChar
      have starts := legal.1
      simp only [isVariableStart, isVariableChar, Char.isAlphanum, Bool.or_eq_true] at starts ⊢
      exact starts.imp_left Or.inl
    · exact ascii_of_isVariableChar (legal.2 c later)

/-- Every letter case is stable, whichever names are allowed. -/
theorem NameCase.stable (nameCase : NameCase) (accepts : String → Bool) :
    (Naming.mk nameCase.apply accepts).Stable := by
  -- A variable has ASCII characters only, and those of a normalized one have the right case.
  intro name legal
  have small := ascii_of_isVariable legal
  cases nameCase with
  | preserve => rfl
  | upper =>
    simp only [apply, Text.toUpper, String.toList_ofList] at small ⊢
    rw [flatMap_upperChar]
    intro c member
    -- Each character is the capital of some other one, and so no small letter.
    obtain ⟨letter, -, capital⟩ := List.mem_flatMap.mp member
    exact ⟨small c member, not_isSmall_of_upperChar capital⟩
  | lower =>
    simp only [apply, Text.toLower, String.toList_ofList] at small ⊢
    rw [lowerFrom_eq_self]
    intro c member
    -- Nothing that was made small is a capital.
    exact ⟨small c member, not_isCapital_of_lowerFrom member⟩

/-- A cell name is letters followed by digits. -/
theorem spelling_of_isCellName {name : String} (cellName : isCellName name = true) :
    ∃ letters digits, name.toList = letters ++ digits ∧ letters ≠ [] ∧ digits ≠ [] ∧
      (∀ c ∈ letters, c.isAlpha = true) ∧ ∀ c ∈ digits, c.isDigit = true := by
  -- The test splits the name behind its leading letters.
  simp only [isCellName, ne_eq, Bool.and_eq_true, decide_eq_true_eq, List.all_eq_true] at cellName
  obtain ⟨⟨letters, digits⟩, numeric⟩ := cellName
  refine ⟨_, _, List.takeWhile_append_dropWhile.symm, letters, digits, ?_, numeric⟩
  exact List.all_eq_true.mp List.all_takeWhile

/-- A cell name is spelled as variables are. -/
theorem isVariable_of_isCellName {name : String} (cellName : isCellName name = true) :
    isVariable name = true := by
  obtain ⟨letters, digits, spelled, present, -, alphabetic, numeric⟩ :=
    spelling_of_isCellName cellName
  obtain ⟨first, others, rfl⟩ := List.exists_cons_of_ne_nil present
  -- The first letter begins the variable, and what stands behind it may go on with one.
  rw [isVariable, spelled, List.cons_append]
  simp only [isVariableStart, isVariableChar, Char.isAlphanum, alphabetic first List.mem_cons_self,
    Bool.true_or, Bool.true_and, List.all_append, Bool.and_eq_true, List.all_eq_true,
    Bool.or_eq_true]
  exact ⟨fun c member => .inl (.inl (alphabetic c (List.mem_cons_of_mem first member))),
    fun c member => .inl (.inr (numeric c member))⟩

end Worksheet
