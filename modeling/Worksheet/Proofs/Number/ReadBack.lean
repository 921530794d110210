import Worksheet.Number.Shortest
import Worksheet.Proofs.Number.Literal
import Worksheet.Proofs.Number.Positional

/-!
The text of a finite number reads back as that number, bit for bit: a decimal is chosen only if it
rounds to the number, and the exact value always does.
-/

namespace Worksheet

open Text (Stops Trimmed)

variable {n d : Nat} {x : Double}

/-- An exact quotient is its own rounding. -/
theorem roundHalfEven_mul (positive : 0 < d) : roundHalfEven (n * d) d = n := by
  -- There is no remainder to round.
  simp only [roundHalfEven, Nat.mul_mod_left, Nat.mul_div_cancel n positive, Nat.mul_zero]
  rw [if_pos positive]

/-- Zero over any denominator has no magnitude. -/
theorem nearestMagnitude_zero (positive : 0 < d) : nearestMagnitude 0 d = 0 := by
  -- Zero is a multiple of every step, so that nothing is rounded.
  have rounded : roundHalfEven 0 d = 0 := by simpa using @roundHalfEven_mul 0 d positive
  simp [nearestMagnitude, rounded]

namespace Double

/-- The significand of a number, counted in the units of the number's own exponent. -/
def significand (x : Double) : Nat :=
  if x.magnitude / exponentWeight = 0 then x.magnitude % exponentWeight
  else exponentWeight + x.magnitude % exponentWeight

/-- How often the smallest unit is doubled to the unit of a number's exponent. -/
def doublings (x : Double) : Nat :=
  x.magnitude / exponentWeight - 1

/-- The units of a number are its significand, doubled as often as its exponent says. -/
theorem units_eq (x : Double) : x.units = x.significand <<< x.doublings := by
  unfold units significand doublings
  dsimp only
  split
  · -- Below the first exponent step nothing is doubled.
    rename_i zero
    rw [zero]
    rfl
  · rfl

/-- The magnitude of a number is its significand on top of one exponent step for each doubling. -/
theorem magnitude_eq (x : Double) :
    x.doublings * exponentWeight + x.significand = x.magnitude := by
  have parts := Nat.div_add_mod x.magnitude exponentWeight
  unfold significand doublings
  split
  · rename_i zero
    rw [zero] at parts ⊢
    omega
  · rename_i positive
    -- The leading bit of the significand is the first step of the exponent.
    obtain ⟨steps, more⟩ := Nat.exists_eq_succ_of_ne_zero positive
    rw [more, Nat.succ_eq_add_one, Nat.mul_add] at parts
    rw [more, Nat.succ_sub_one, Nat.mul_comm]
    omega

/-- The bits of a number's units past the 53rd are those that its exponent adds. -/
theorem log2_units (x : Double) : x.units.log2 - 52 = x.doublings := by
  have weight : exponentWeight = 2 ^ 52 := rfl
  have fraction : x.magnitude % exponentWeight < 2 ^ 52 := Nat.mod_lt _ (by decide)
  rw [units_eq, Nat.shiftLeft_eq]
  unfold significand
  split
  · rename_i zero
    -- A number below the first exponent step has at most 52 bits.
    have single : x.doublings = 0 := by rw [doublings, zero]
    rw [single]
    by_cases nothing : x.magnitude % exponentWeight = 0
    · rw [nothing]
      rfl
    · have bits := (Nat.log2_lt nothing).mpr fraction
      simp only [Nat.pow_zero, Nat.mul_one]
      omega
  · -- Every other one has 53 bits before it is doubled.
    have leading : 2 ^ 52 * 2 ^ x.doublings ≤
        (exponentWeight + x.magnitude % exponentWeight) * 2 ^ x.doublings :=
      Nat.mul_le_mul_right _ (by omega)
    have bounded : (exponentWeight + x.magnitude % exponentWeight) * 2 ^ x.doublings <
        2 ^ 53 * 2 ^ x.doublings :=
      Nat.mul_lt_mul_of_pos_right (by omega) (Nat.two_pow_pos _)
    rw [← Nat.pow_add] at leading bounded
    -- Between two powers of two, the logarithm is the exponent of the lower one.
    have nonzero : (exponentWeight + x.magnitude % exponentWeight) * 2 ^ x.doublings ≠ 0 :=
      Nat.ne_of_gt (Nat.lt_of_lt_of_le (Nat.two_pow_pos _) leading)
    have bits : ((exponentWeight + x.magnitude % exponentWeight) * 2 ^ x.doublings).log2 =
        52 + x.doublings := by
      rw [Nat.log2_eq_iff nonzero]
      exact ⟨leading, by rwa [Nat.add_right_comm]⟩
    omega

/-- A number is finite if its magnitude lies below that of the infinities. -/
theorem magnitude_lt (finite : x.isFinite = true) : x.magnitude < infiniteMagnitude := by
  simpa [isFinite] using finite

/-- The exact value of a finite number rounds to the number. -/
theorem magnitude_exactDecimal (finite : x.isFinite = true) :
    x.exactDecimal.magnitude = x.magnitude := by
  simp only [exactDecimal, Decimal.magnitude, nearestMagnitude]
  -- The places of a unit are many, but nothing depends on how many they are.
  generalize unitPlaces = places
  have positive : 0 < Nat.pow 10 places := Nat.pow_pos (by decide)
  have shifted : 0 < Nat.pow 10 places <<< x.doublings := by
    rw [Nat.shiftLeft_eq]
    exact Nat.mul_pos positive (Nat.two_pow_pos _)
  have scaled : (x.units * Nat.pow 5 places) <<< places = x.units * Nat.pow 10 places := by
    rw [Nat.shiftLeft_eq, Nat.mul_assoc]
    congr 1
    exact (Nat.mul_pow 5 2 places).symm
  -- What is rounded is the significand over its own unit, and that is exact.
  have quotient : x.units * Nat.pow 10 places =
      x.significand * (Nat.pow 10 places <<< x.doublings) := by
    rw [units_eq, Nat.shiftLeft_eq, Nat.shiftLeft_eq, Nat.mul_assoc, Nat.mul_comm (2 ^ _)]
  rw [scaled, Nat.mul_div_cancel _ positive, log2_units, quotient, roundHalfEven_mul shifted,
    magnitude_eq]
  exact Nat.min_eq_right (Nat.le_of_lt (magnitude_lt finite))

/-- The neighbour that is picked has the magnitude that was asked for. -/
theorem magnitude_of_pick? {magnitude : Nat} {lower upper decimal : Decimal} {isLowerNearer : Bool}
    (picked : Decimal.pick? magnitude lower upper isLowerNearer = some decimal) :
    decimal.magnitude = magnitude := by
  unfold Decimal.pick? at picked
  by_cases below : lower.magnitude = magnitude
  · -- Where the lower one has it, the upper one is taken only if it has it too.
    rw [if_pos below] at picked
    split at picked
    · rename_i above
      cases picked
      exact above.1
    · cases picked
      exact below
  · -- Otherwise the upper one is taken if it has it.
    rw [if_neg below] at picked
    split at picked
    · rename_i above
      cases picked
      exact above
    · cases picked

/-- A decimal that is chosen with some digits rounds to the number. -/
theorem magnitude_of_withDigits? {count : Nat} {decimal : Decimal}
    (chosen : x.withDigits? count = some decimal) : decimal.magnitude = x.magnitude := by
  -- Whichever candidate is picked has been read back before.
  unfold withDigits? at chosen
  exact magnitude_of_pick? chosen

/-- The shortest decimal of a finite number rounds to the number. -/
theorem magnitude_shortestDecimal (finite : x.isFinite = true) :
    x.shortestDecimal.magnitude = x.magnitude := by
  unfold shortestDecimal
  cases found : (List.range 17).findSome? fun i => x.withDigits? (i + 1) with
  -- Where no count of digits is enough, the exact value is taken.
  | none => exact magnitude_exactDecimal finite
  | some decimal =>
    obtain ⟨count, -, chosen⟩ := List.exists_of_findSome?_eq_some found
    exact magnitude_of_withDigits? chosen

/-- A number is put together again from its sign and its magnitude. -/
theorem ofMagnitude_magnitude (x : Double) : ofMagnitude x.isNegative x.magnitude = x := by
  obtain ⟨bits⟩ := x
  have small := bits.toNat_lt
  have weight : signWeight = 9223372036854775808 := rfl
  -- The sign is the topmost of the 64 bits, and the magnitude is the others.
  simp only [ofMagnitude, isNegative, magnitude, weight, mk.injEq, ← UInt64.toNat_inj,
    UInt64.toNat_ofNat']
  by_cases negative : 9223372036854775808 ≤ bits.toNat
  · simp only [negative, decide_true, if_true]
    omega
  · simp only [negative, decide_false, Bool.false_eq_true, if_false]
    omega

end Double

namespace Decimal

/-- The literal that a decimal is written as. -/
def literal (d : Decimal) : Literal :=
  { whole := toDigits (d.digits / Nat.pow 10 d.places)
    fraction := if d.places = 0 then none else some (lastDigits d.places d.digits)
    exponent := none }

/-- The text of a decimal is the spelling of its literal. -/
theorem spelling_literal (d : Decimal) : d.literal.spelling = d.text := by
  unfold text positional literal Literal.spelling
  split
  · rename_i whole
    -- Without places nothing is cut off.
    rw [whole, show Nat.pow 10 0 = 1 from rfl, Nat.div_one]
    simp
  · simp

/-- A decimal is written as a literal without a power of ten. -/
theorem wellFormed_literal (d : Decimal) : d.literal.WellFormed := by
  -- Both parts are written in digits, and the whole part has at least one.
  refine ⟨isDigit_toDigits _, ?_, Or.inl (toDigits_ne_nil _), by simp [literal]⟩
  intro digits fraction
  simp only [literal] at fraction
  split at fraction
  · cases fraction
  · cases fraction
    exact isDigit_lastDigits _ _

/-- The digits of a decimal's literal are those on both sides of its point. -/
theorem fraction_literal (d : Decimal) :
    d.literal.fraction.getD [] = lastDigits d.places d.digits := by
  -- Without places there is no fraction, which leaves no digits either.
  unfold literal
  split
  · rename_i whole
    rw [whole]
    rfl
  · rfl

/-- The number of a decimal's literal is the one nearest to the decimal. -/
theorem value_literal (d : Decimal) (negative : Bool) :
    d.literal.value negative = .ofMagnitude negative d.magnitude := by
  -- The digits that are written are read as the same number, and the places as its scale.
  have spelled : ofDigits (d.literal.whole ++ d.literal.fraction.getD []) = d.digits := by
    rw [fraction_literal]
    exact ofDigits_positional d.digits d.places
  have scale : d.literal.scale = -(d.places : Int) := by
    rw [Literal.scale, fraction_literal, length_lastDigits]
    simp [literal]
  -- All the places of the decimal are among the digits that are read.
  have length : d.places ≤ (d.literal.whole ++ d.literal.fraction.getD []).length := by
    rw [fraction_literal, List.length_append, length_lastDigits]
    exact Nat.le_add_left _ _
  have positive : 0 < Nat.pow 10 d.places := Nat.pow_pos (by decide)
  simp only [Literal.value, Literal.magnitude, spelled, scale]
  congr 1
  by_cases zero : d.digits = 0
  · rw [if_pos zero, magnitude, zero, nearestMagnitude_zero positive]
  · -- A literal without a power of ten is neither too large nor too small for its digits.
    rw [if_neg zero, if_neg (by omega), if_neg (by omega), magnitude]
    have whole : (-(d.places : Int)).toNat = 0 := by omega
    have places : (- -(d.places : Int)).toNat = d.places := by omega
    rw [whole, places]
    exact congrArg (nearestMagnitude · _) (Nat.mul_one d.digits)

/-- A decimal is written with digits and perhaps a point. -/
theorem mem_text {d : Decimal} {c : Char} (member : c ∈ d.text) : c.isDigit = true ∨ c = '.' := by
  -- All that is written besides digits is the point between them.
  have digit : ∀ {m : Nat}, c ∈ toDigits m → c.isDigit = true ∨ c = '.' :=
    fun inside => Or.inl (isDigit_toDigits _ c inside)
  unfold text positional at member
  split at member
  · exact digit member
  · rcases List.mem_append.mp member with whole | behind
    · exact digit whole
    · rcases List.mem_cons.mp behind with point | fraction
      · exact Or.inr point
      · exact Or.inl (isDigit_lastDigits _ _ c fraction)

end Decimal

namespace Double

/-- The sign of a number stands before the text of its absolute value. -/
theorem toList_signed (x : Double) (cs : List Char) :
    (x.signed cs).toList = (if x.isNegative then some '-' else none).toList ++ cs := by
  -- The sign is written or it is not.
  unfold signed
  cases x.isNegative <;> simp

/-- A finite number is written as its shortest decimal, a minus sign before it where that is due. -/
theorem toList_text (finite : x.isFinite = true) :
    x.text.toList = (if x.isNegative then some '-' else none).toList ++ x.shortestDecimal.text := by
  -- A finite number is neither undefined nor infinite.
  have defined : ¬x.isUndefined = true := by
    simpa [isUndefined] using Nat.le_of_lt (magnitude_lt finite)
  rw [text, if_neg defined, if_pos finite, toList_signed]

/-- A finite number that is not negative is written as the literal of its shortest decimal. -/
theorem toList_text_of_unsigned (finite : x.isFinite = true) (unsigned : x.isNegative = false) :
    x.text.toList = x.shortestDecimal.literal.spelling := by
  -- No sign stands before the digits.
  rw [toList_text finite, unsigned, if_neg Bool.false_ne_true, Option.toList_none, List.nil_append,
    Decimal.spelling_literal]

/-- The text of a finite number has a sign, digits and a point only. -/
theorem mem_text {c : Char} (finite : x.isFinite = true) (member : c ∈ x.text.toList) :
    c = '-' ∨ goesOn c = true := by
  -- The text is a sign at most and then the digits with their point.
  rw [toList_text finite] at member
  rcases List.mem_append.mp member with sign | inside
  · split at sign
    · exact Or.inl (List.mem_singleton.mp sign)
    · cases sign
  · rcases Decimal.mem_text inside with digit | point
    · exact Or.inr (goesOn_of_isDigit digit)
    · exact Or.inr (point ▸ rfl)

/-- The text of a finite number has no blanks. -/
theorem isBlank_of_mem_text {c : Char} (finite : x.isFinite = true) (member : c ∈ x.text.toList) :
    Text.isBlank c = false := by
  -- Neither a sign nor a character of a word is blank.
  rcases mem_text finite member with rfl | inside
  · decide
  · exact isBlank_of_goesOn inside

/-- The text of a finite number is read as that number. -/
theorem read?_text (finite : x.isFinite = true) : read? x.text = some x := by
  -- The only sign that is written is that of a negative number.
  have sign : ∀ c ∈ (if x.isNegative then some '-' else none), c = '+' ∨ c = '-' := by
    intro c member
    split at member
    · exact Or.inr (Option.mem_some_iff.mp member).symm
    · cases member
  -- Behind its sign the text is the literal of the decimal.
  have spelled : x.text.toList =
      (if x.isNegative then some '-' else none).toList ++ x.shortestDecimal.literal.spelling := by
    rw [toList_text finite, Decimal.spelling_literal]
  -- The sign tells whether the number is negative, and the digits give its magnitude.
  have negative : decide ((if x.isNegative then some '-' else none) = some '-') = x.isNegative := by
    cases x.isNegative <;> rfl
  have value : x.shortestDecimal.literal.value
      (decide ((if x.isNegative then some '-' else none) = some '-')) = x := by
    rw [negative, Decimal.value_literal, magnitude_shortestDecimal finite, ofMagnitude_magnitude]
  have read := read?_of_spelled x.shortestDecimal.wellFormed_literal sign spelled
    (by rw [value]; exact finite)
  rwa [value] at read

end Double

end Worksheet
