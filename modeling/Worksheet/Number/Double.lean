/-! A double-precision number is its 64-bit word, so the two zeros differ and equality is decidable. -/

namespace Worksheet

/-- A double-precision number, known by its bits. -/
structure Double where
  bits : UInt64
deriving DecidableEq, Inhabited

namespace Double

/-- The machine number with the same bits. -/
def toFloat (x : Double) : Float :=
  Float.ofBits x.bits

/-- The number with the bits of a machine number. -/
def ofFloat (x : Float) : Double :=
  ⟨x.toBits⟩

/-- The correctly rounded sum. -/
def add (x y : Double) : Double :=
  ofFloat (x.toFloat + y.toFloat)

/-- The correctly rounded difference. -/
def sub (x y : Double) : Double :=
  ofFloat (x.toFloat - y.toFloat)

/-- The correctly rounded product. -/
def mul (x y : Double) : Double :=
  ofFloat (x.toFloat * y.toFloat)

/-- The correctly rounded quotient. -/
def div (x y : Double) : Double :=
  ofFloat (x.toFloat / y.toFloat)

/-- What the sign bit adds to a word. -/
def signWeight : Nat :=
  1 <<< 63

/-- What one step of the exponent field adds to a word. -/
def exponentWeight : Nat :=
  1 <<< 52

/-- Whether the sign bit is set, as it is in negative zero. -/
def isNegative (x : Double) : Bool :=
  signWeight ≤ x.bits.toNat

/-- The bits below the sign, which grow with the absolute value. -/
def magnitude (x : Double) : Nat :=
  x.bits.toNat % signWeight

/-- The magnitude of the two infinities, which only the not-a-number words exceed. -/
def infiniteMagnitude : Nat :=
  2047 * exponentWeight

/-- The number with a given sign and magnitude. -/
def ofMagnitude (negative : Bool) (magnitude : Nat) : Double :=
  ⟨UInt64.ofNat (if negative then signWeight + magnitude else magnitude)⟩

/-- Whether the number is one of the two zeros. -/
def isZero (x : Double) : Bool :=
  x.magnitude == 0

/-- Whether the number is neither infinite nor undefined. -/
def isFinite (x : Double) : Bool :=
  x.magnitude < infiniteMagnitude

/-- Whether the number is undefined. -/
def isUndefined (x : Double) : Bool :=
  infiniteMagnitude < x.magnitude

/-- The absolute value counted in units of the smallest positive number, for a finite number. -/
def units (x : Double) : Nat :=
  -- Every step of the exponent field past the first doubles the unit of the 53-bit significand.
  let exponent := x.magnitude / exponentWeight
  let fraction := x.magnitude % exponentWeight
  if exponent = 0 then fraction else (exponentWeight + fraction) <<< (exponent - 1)

/-- The places after the binary point of one unit, so that a unit is two to this power inverted. -/
def unitPlaces : Nat :=
  1074

end Double

end Worksheet
