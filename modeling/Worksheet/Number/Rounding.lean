import Worksheet.Number.Double

/-! A ratio of naturals rounds to the nearest number, a tie going to the even neighbour. -/

namespace Worksheet

/-- The quotient rounded to the nearest natural, a tie going to the even one. -/
def roundHalfEven (numerator denominator : Nat) : Nat :=
  -- Twice the remainder against the denominator tells on which side of the half it lies.
  let quotient := numerator / denominator
  let twice := 2 * (numerator % denominator)
  if twice < denominator then quotient
  else if denominator < twice then quotient + 1
  else quotient + quotient % 2

/-- The magnitude of the number nearest to a ratio, infinite when every finite one is exceeded. -/
def nearestMagnitude (numerator denominator : Nat) : Nat :=
  -- Counted in units the ratio has some bits; those past the 53rd are rounded away. A carry into
  -- the next power of two is the magnitude's own carry into the exponent field.
  let scaled := numerator <<< Double.unitPlaces
  let shift := (scaled / denominator).log2 - 52
  min Double.infiniteMagnitude
    (shift * Double.exponentWeight + roundHalfEven scaled (denominator <<< shift))

end Worksheet
