import Worksheet.Proofs.Naming

/-!
Texts that differ at most in the case of their ASCII letters: which characters begin or continue a run
does not depend on case, and a naming that puts names into one case gives such texts one name.
-/

namespace Worksheet

namespace Text

/-- The text with its ASCII capitals made small and everything else as it is. -/
def caseless (s : String) : String :=
  String.ofList (s.toList.map Char.toLower)

variable {α : Type} {c : Char} {cs : List Char} {p : Char → Bool}

/-- Made caseless, a text has the characters made small one by one. -/
theorem caseless_ofList (cs : List Char) :
    caseless (String.ofList cs) = String.ofList (cs.map Char.toLower) := by
  rw [caseless, String.toList_ofList]

/-- The capitals of ASCII are all that is made small. -/
theorem toLower_of_large (large : ¬c.toNat < 128) : c.toLower = c := by
  unfold Char.toLower
  split
  · -- The last capital lies far below.
    rename_i capital
    have bound := UInt32.le_iff_toNat_le.mp capital.2
    exact absurd (Nat.lt_of_le_of_lt bound (by decide)) large
  · rfl

/-- What does not tell an ASCII capital from its small letter tells no character from its small one. -/
theorem toLower_congr {f : Char → α}
    (all : ∀ n < 128, f (Char.ofNat n).toLower = f (Char.ofNat n)) (c : Char) :
    f c.toLower = f c := by
  -- Beyond ASCII nothing is made small.
  by_cases small : c.toNat < 128
  · exact @LetterCase.ascii c (fun c => f c.toLower = f c) all small
  · rw [toLower_of_large small]

/-- A run at the head of a text stays the run there if it takes letters whatever their case. -/
theorem takeWhile_map_toLower (same : ∀ c, p c.toLower = p c) (cs : List Char) :
    (cs.map Char.toLower).takeWhile p = (cs.takeWhile p).map Char.toLower := by
  -- The run is the same before and behind the change of letters.
  have composed : p ∘ Char.toLower = p := funext same
  rw [List.takeWhile_map, composed]

/-- What follows the run at the head of a text follows it still. -/
theorem dropWhile_map_toLower (same : ∀ c, p c.toLower = p c) (cs : List Char) :
    (cs.map Char.toLower).dropWhile p = (cs.dropWhile p).map Char.toLower := by
  -- The run is the same before and behind the change of letters.
  have composed : p ∘ Char.toLower = p := funext same
  rw [List.dropWhile_map, composed]

namespace LetterCase

/-- A character between two code points is in no range if all ranges leave these out. -/
theorem inRanges_eq_false {ranges : List (Nat × Nat)} {first last : Nat}
    (avoided : ranges.all (fun range => range.2 < first || last < range.1) = true)
    (lower : first ≤ c.toNat) (upper : c.toNat ≤ last) : inRanges ranges c = false := by
  -- Each range of the table ends before the character or begins behind it.
  rw [inRanges, List.any_eq_false]
  intro range member
  have misses := List.all_eq_true.mp avoided range member
  simp only [Bool.or_eq_true, decide_eq_true_eq] at misses
  simp only [Bool.and_eq_true, decide_eq_true_eq, not_and]
  omega

/-- An ASCII letter has a case, and it is not passed over around a sigma. -/
theorem isCased_of_letter (letter : IsSmall c ∨ IsCapital c) :
    isCased c = true ∧ isIgnorable c = false := by
  -- Both kinds of letters are ranges of the one table and lie outside all ranges of the other.
  have small : c.toNat < 128 := by
    rcases letter with bounds | bounds
    · exact Nat.lt_of_le_of_lt bounds.2 (by decide)
    · exact Nat.lt_of_le_of_lt bounds.2 (by decide)
  have cased := @ascii c (fun c => IsSmall c ∨ IsCapital c → isCased c = true) (by decide +kernel)
  refine ⟨cased small letter, ?_⟩
  rcases letter with bounds | bounds
  · exact inRanges_eq_false (by decide +kernel) bounds.1 bounds.2
  · exact inRanges_eq_false (by decide +kernel) bounds.1 bounds.2

/-- A character is its own small letter, or it is a capital of ASCII and its small letter in ASCII too. -/
theorem toLower_cases (c : Char) : c.toLower = c ∨ (IsCapital c ∧ IsSmall c.toLower) := by
  -- Only the letters of ASCII change, which can be tried one by one.
  by_cases small : c.toNat < 128
  · exact @ascii c (fun c => c.toLower = c ∨ (IsCapital c ∧ IsSmall c.toLower)) (by decide) small
  · exact Or.inl (toLower_of_large small)

/-- A character is made another one that is no letter only if it was that one before. -/
theorem toLower_eq_iff {d : Char} (letterless : ¬IsSmall d ∧ ¬IsCapital d) :
    c.toLower = d ↔ c = d := by
  -- A character that changes is a capital and becomes a small letter, which the other one is not.
  rcases toLower_cases c with same | ⟨capital, small⟩
  · rw [same]
  · constructor
    · rintro rfl
      exact absurd small letterless.1
    · rintro rfl
      exact absurd capital letterless.2

/-- Whether a character has a case does not depend on which it has. -/
theorem isCased_toLower (c : Char) : isCased c.toLower = isCased c := by
  -- Letters of either case are cased.
  rcases toLower_cases c with same | ⟨capital, small⟩
  · rw [same]
  · rw [(isCased_of_letter (.inl small)).1, (isCased_of_letter (.inr capital)).1]

/-- Whether a character is passed over does not depend on its case. -/
theorem isIgnorable_toLower (c : Char) : isIgnorable c.toLower = isIgnorable c := by
  -- No letter is ignorable.
  rcases toLower_cases c with same | ⟨capital, small⟩
  · rw [same]
  · rw [(isCased_of_letter (.inl small)).2, (isCased_of_letter (.inr capital)).2]

/-- Small letters have the capitals that they were made small from. -/
theorem flatMap_upperChar_toLower (cs : List Char) :
    (cs.map Char.toLower).flatMap upperChar = cs.flatMap upperChar := by
  -- A character has the same capital as its small letter.
  have same : ∀ c, upperChar c.toLower = upperChar c := toLower_congr (by decide)
  rw [List.flatMap_map]
  exact congrArg (cs.flatMap ·) (funext same)

/-- Whether a text goes on with a letter that has a case does not depend on which it has. -/
theorem startsCased_toLower (cs : List Char) : startsCased (cs.map Char.toLower) = startsCased cs := by
  -- Neither what is passed over nor what it is followed by depends on the case of letters.
  rw [startsCased, dropWhile_map_toLower isIgnorable_toLower, List.head?_map, Option.any_map]
  exact congrArg (Option.any · _) (funext isCased_toLower)

/-- A text that has been made small in part is made small as before. -/
theorem lowerFrom_toLower (afterCased : Bool) (cs : List Char) :
    lowerFrom afterCased (cs.map Char.toLower) = lowerFrom afterCased cs := by
  induction cs generalizing afterCased with
  | nil => rfl
  | cons c rest ih =>
    have letter : lowerChar c.toLower = lowerChar c := toLower_congr (by decide) c
    -- Whether a sigma is final depends on its neighbours, of which only the case may have changed.
    have sigma : c.toLower = '\u03a3' ↔ c = '\u03a3' := toLower_eq_iff (by decide)
    simp only [List.map_cons, lowerFrom, sigma, letter, startsCased_toLower, isIgnorable_toLower,
      isCased_toLower, ih]

end LetterCase

end Text

open Text.LetterCase

/-- Whether a naming gives one name to all texts that differ in case alone. -/
def Naming.IgnoresCase (naming : Naming) : Prop :=
  ∀ name, naming.normalize (Text.caseless name) = naming.normalize name

/-- Names in capitals and names in small letters ignore the case that they are entered in. -/
theorem NameCase.ignoresCase {naming : Naming} {nameCase : NameCase}
    (either : nameCase = .upper ∨ nameCase = .lower) (cased : naming.normalize = nameCase.apply) :
    naming.IgnoresCase := by
  intro name
  rw [cased]
  -- Both cases are computed from characters, which agree on the two cases of a letter.
  rcases either with rfl | rfl
  · simp only [NameCase.apply, Text.toUpper, Text.caseless, String.toList_ofList]
    rw [flatMap_upperChar_toLower]
  · simp only [NameCase.apply, Text.toLower, Text.caseless, String.toList_ofList]
    rw [lowerFrom_toLower]

end Worksheet
