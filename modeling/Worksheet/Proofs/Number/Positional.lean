import Worksheet.Number.Positional

/-! Decimal digits that are written read back as the natural they were written from. -/

namespace Worksheet

variable {n count : Nat} {c : Char} {left right : List Char}

/-- A number below ten is written as a digit. -/
theorem isDigit_digitChar (small : n < 10) : (digitChar n).isDigit = true := by
  -- There are ten digits to look at.
  decide +revert

/-- The digit of a number below ten counts for that number. -/
theorem toNat_digitChar (small : n < 10) : (digitChar n).toNat - 48 = n := by
  decide +revert

/-- Digits move those before them one place up each. -/
theorem ofDigits_append :
    ofDigits (left ++ right) = ofDigits left * Nat.pow 10 right.length + ofDigits right := by
  -- The value read so far is any number, and each further digit makes it ten times as large.
  have general : ∀ value : Nat,
      right.foldl (fun value digit => 10 * value + (digit.toNat - 48)) value =
        value * Nat.pow 10 right.length + ofDigits right := by
    induction right with
    | nil => simp [ofDigits]
    | cons digit rest ih =>
      intro value
      have first : ofDigits (digit :: rest) =
          (digit.toNat - 48) * Nat.pow 10 rest.length + ofDigits rest := by
        simp only [ofDigits, List.foldl_cons]
        rw [Nat.mul_zero, Nat.zero_add]
        exact ih (digit.toNat - 48)
      -- The first digit joins the value before the others are read.
      calc (digit :: rest).foldl _ value
        _ = (10 * value + (digit.toNat - 48)) * Nat.pow 10 rest.length + ofDigits rest := ih _
        _ = value * (Nat.pow 10 rest.length * 10) +
            ((digit.toNat - 48) * Nat.pow 10 rest.length + ofDigits rest) := by grind
        _ = value * Nat.pow 10 (digit :: rest).length + ofDigits (digit :: rest) := by
          rw [first]
          rfl
  rw [ofDigits, List.foldl_append]
  exact general (ofDigits left)

/-- One digit counts for itself behind ten times those before it. -/
theorem ofDigits_concat (small : n < 10) :
    ofDigits (left ++ [digitChar n]) = 10 * ofDigits left + n := by
  simp only [ofDigits, List.foldl_append, List.foldl_cons, List.foldl_nil, toNat_digitChar small]

/-- The digits of a natural spell it. -/
theorem ofDigits_toDigits (n : Nat) : ofDigits (toDigits n) = n := by
  -- The last digit is the remainder, and the others are those of the quotient.
  fun_induction toDigits n with
  | case1 n small => simpa [ofDigits] using toNat_digitChar small
  | case2 n large ih =>
    rw [ofDigits_concat (Nat.mod_lt n (by decide)), ih]
    omega

/-- Every character of a written natural is a digit. -/
theorem isDigit_toDigits (n : Nat) : ∀ c ∈ toDigits n, c.isDigit = true := by
  fun_induction toDigits n with
  | case1 n small =>
    intro c member
    rw [List.mem_singleton.mp member]
    exact isDigit_digitChar small
  | case2 n large ih =>
    -- A character belongs to the quotient, or it is the digit of the remainder.
    intro c member
    rcases List.mem_append.mp member with before | last
    · exact ih c before
    · rw [List.mem_singleton.mp last]
      exact isDigit_digitChar (Nat.mod_lt n (by decide))

/-- A natural is written with at least one digit. -/
theorem toDigits_ne_nil (n : Nat) : toDigits n ≠ [] := by
  -- The last digit is always written, also that of zero.
  unfold toDigits
  split <;> simp

/-- There are as many last digits as were asked for. -/
theorem length_lastDigits (count n : Nat) : (lastDigits count n).length = count := by
  -- Each step writes one digit and leaves the others to the quotient.
  induction count generalizing n with
  | zero => rfl
  | succ count ih => simp [lastDigits, ih]

/-- The last digits of a natural spell what is left of it below their first place. -/
theorem ofDigits_lastDigits (count n : Nat) :
    ofDigits (lastDigits count n) = n % Nat.pow 10 count := by
  -- The last digit is the remainder by ten, and the digits before it are those of the quotient.
  induction count generalizing n with
  | zero => exact (Nat.mod_one n).symm
  | succ count ih =>
    have split : n % (10 * Nat.pow 10 count) = n % 10 + 10 * (n / 10 % Nat.pow 10 count) :=
      Nat.mod_mul
    have power : Nat.pow 10 (count + 1) = 10 * Nat.pow 10 count := Nat.mul_comm _ _
    rw [lastDigits, ofDigits_concat (Nat.mod_lt n (by decide)), ih, power, split]
    omega

/-- Every character of the last digits is a digit. -/
theorem isDigit_lastDigits (count n : Nat) : ∀ c ∈ lastDigits count n, c.isDigit = true := by
  -- Each digit that is written is a remainder by ten.
  induction count generalizing n with
  | zero => simp [lastDigits]
  | succ count ih =>
    intro c member
    rcases List.mem_append.mp member with before | last
    · exact ih (n / 10) c before
    · rw [List.mem_singleton.mp last]
      exact isDigit_digitChar (Nat.mod_lt n (by decide))

/-- The digits on both sides of a decimal point spell the natural that was written with it. -/
theorem ofDigits_positional (n places : Nat) :
    ofDigits (toDigits (n / Nat.pow 10 places) ++ lastDigits places n) = n := by
  -- What the point cuts off is the remainder by its power of ten.
  rw [ofDigits_append, ofDigits_toDigits, length_lastDigits, ofDigits_lastDigits, Nat.mul_comm]
  exact Nat.div_add_mod n (Nat.pow 10 places)

end Worksheet
