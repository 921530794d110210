import Worksheet.Number.Positional
import Worksheet.Number.Rounding

/-!
Numbers as text: the fewest digits that read back to the same number, and a fixed number of places
of its exact value, both written without an exponent.
-/

namespace Worksheet

/-- A decimal fraction: a natural over a power of ten. -/
structure Decimal where
  digits : Nat
  places : Nat
deriving DecidableEq

namespace Decimal

/-- Drops the zeros that end the fractional part. -/
def strip : Nat → Nat → Decimal
  | digits, 0 => ⟨digits, 0⟩
  | digits, places + 1 =>
    if digits % 10 = 0 then strip (digits / 10) places else ⟨digits, places + 1⟩

/-- The magnitude of the number that a decimal reads back as. -/
def magnitude (d : Decimal) : Nat :=
  nearestMagnitude d.digits (Nat.pow 10 d.places)

/-- The one of two neighbours that reads back as a magnitude, the nearer one if both do so. -/
def pick? (magnitude : Nat) (lower upper : Decimal) (isLowerNearer : Bool) : Option Decimal :=
  if lower.magnitude = magnitude then
    if upper.magnitude = magnitude ∧ isLowerNearer = false then some upper else some lower
  else if upper.magnitude = magnitude then some upper
  else none

/-- The characters of a decimal. -/
def text (d : Decimal) : List Char :=
  positional d.digits d.places

end Decimal

namespace Double

/-- The least power of ten above the absolute value, for a number that is not zero. -/
def decimalExponent (x : Double) : Int :=
  -- Moved 400 places every number exceeds one, and its whole part has that many digits more.
  digitCount ((x.units * Nat.pow 10 400) >>> unitPlaces) - 400

/-- A decimal with a given number of significant digits that reads back, the nearer one of two. -/
def withDigits? (x : Double) (count : Nat) : Option Decimal :=
  -- The absolute value lies between two neighbours on the grid of that many digits; being as far
  -- from both, the upper one wins.
  let grid := x.decimalExponent - count
  let places := (-grid).toNat
  let step := Nat.pow 10 grid.toNat
  let exact := x.units * Nat.pow 10 places
  let below := exact / (step <<< unitPlaces) * step
  let above := below + step
  Decimal.pick? x.magnitude (Decimal.strip below places) (Decimal.strip above places)
    (exact - below <<< unitPlaces < above <<< unitPlaces - exact)

/-- The exact absolute value as a decimal. -/
def exactDecimal (x : Double) : Decimal :=
  ⟨x.units * Nat.pow 5 unitPlaces, unitPlaces⟩

/-- The decimal with the fewest digits that reads back, which seventeen digits always do. -/
def shortestDecimal (x : Double) : Decimal :=
  ((List.range 17).findSome? fun i => x.withDigits? (i + 1)).getD x.exactDecimal

/-- Puts a minus sign before the text of an absolute value where the sign bit is set. -/
def signed (x : Double) (text : List Char) : String :=
  String.ofList (if x.isNegative then '-' :: text else text)

/-- The shortest text that reads back to the same number. -/
def text (x : Double) : String :=
  if x.isUndefined then "NaN"
  else if x.isFinite then x.signed x.shortestDecimal.text
  else x.signed "inf".toList

/-- The exact value rounded to a number of places, a tie going to the even digit. -/
def rounded (x : Double) (places : Nat) : String :=
  x.signed (positional (roundHalfEven (x.units * Nat.pow 10 places) (1 <<< unitPlaces)) places)

/-- Whether the number is whole and below ten to the tenth, whatever its sign. -/
def isShortWhole (x : Double) : Bool :=
  x.units % (1 <<< unitPlaces) == 0 && x.units < 10000000000 <<< unitPlaces

/-- The text a cell shows: no places for a short whole number and two places for any other. -/
def display (x : Double) : String :=
  if x.isUndefined then "#NAN!"
  else if !x.isFinite then "#INF!"
  else x.rounded (if x.isShortWhole then 0 else 2)

end Double

end Worksheet
