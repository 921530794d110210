/-! Decimal digits: the value of a run of digits, and a natural written with a decimal point. -/

namespace Worksheet

/-- The digit character of a number below ten. -/
def digitChar (n : Nat) : Char :=
  Char.ofNat (48 + n)

/-- The number that a run of decimal digits spells, none spelling zero. -/
def ofDigits (digits : List Char) : Nat :=
  digits.foldl (fun value digit => 10 * value + (digit.toNat - 48)) 0

/-- The decimal digits of a natural, without leading zeros. -/
def toDigits (n : Nat) : List Char :=
  if n < 10 then [digitChar n] else toDigits (n / 10) ++ [digitChar (n % 10)]

/-- How many decimal digits a natural below two to the ten-thousandth has. -/
def digitCount (n : Nat) : Nat :=
  -- A bit is a little over 0.30102 of a digit, which misses the count by one digit at most.
  let atLeast := n.log2 * 30102 / 100000 + 1
  if n < Nat.pow 10 atLeast then atLeast else atLeast + 1

/-- The last digits of a natural, exactly as many as asked for. -/
def lastDigits : Nat → Nat → List Char
  | 0, _ => []
  | count + 1, n => lastDigits count (n / 10) ++ [digitChar (n % 10)]

/-- A natural written with its last digits behind a decimal point, and no point for no places. -/
def positional (n places : Nat) : List Char :=
  if places = 0 then toDigits n
  else toDigits (n / Nat.pow 10 places) ++ '.' :: lastDigits places n

end Worksheet
