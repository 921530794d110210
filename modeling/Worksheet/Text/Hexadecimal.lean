/-! Hexadecimal digits, which are read in either case and written in small letters. -/

namespace Worksheet.Text

/-- The value of a hexadecimal digit in either case. -/
def hexDigit? (c : Char) : Option Nat :=
  if c.isDigit then some (c.toNat - 48)
  else if 'a' ≤ c ∧ c ≤ 'f' then some (c.toNat - 87)
  else if 'A' ≤ c ∧ c ≤ 'F' then some (c.toNat - 55)
  else none

/-- The value of some hexadecimal digits, the first of which counts most. -/
def hexNumber? (cs : List Char) : Option Nat :=
  cs.foldlM (fun value c => (hexDigit? c).map (16 * value + ·)) 0

/-- The hexadecimal digit of a number below sixteen, in small letters. -/
def hexChar (n : Nat) : Char :=
  Char.ofNat (if n < 10 then 48 + n else 87 + n)

/-- A written digit reads back. -/
theorem hexDigit?_hexChar {n : Nat} (digit : n < 16) : hexDigit? (hexChar n) = some n := by
  -- There are sixteen digits to look at.
  decide +revert

/-- Four written digits read back as the number below 256 that the last two of them spell. -/
theorem hexNumber?_hexChar {n : Nat} (byte : n < 256) :
    hexNumber? ['0', '0', hexChar (n / 16), hexChar (n % 16)] = some n := by
  -- Each digit reads back, and the last two of them are worth the number.
  have zero : hexDigit? '0' = some 0 := rfl
  have upper : hexDigit? (hexChar (n / 16)) = some (n / 16) := hexDigit?_hexChar (by omega)
  have lower : hexDigit? (hexChar (n % 16)) = some (n % 16) := hexDigit?_hexChar (by omega)
  simp only [hexNumber?, List.foldlM_cons, List.foldlM_nil, zero, upper, lower, Option.map_some,
    Option.bind_eq_bind, Option.bind_some, Option.pure_def, Option.some.injEq]
  omega

end Worksheet.Text
