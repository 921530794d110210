import Worksheet.Number.Positional
import Worksheet.Number.Rounding
import Worksheet.Text.Blank

/-!
Unsigned literals: digits with an optional point and an optional power of ten, the longest at the
head of a text, and the number each stands for.
-/

namespace Worksheet

/-- The power of ten at the end of a literal, as it is spelled. -/
structure Exponent where
  marker : Char
  sign : Option Char
  digits : List Char
deriving DecidableEq

/-- An unsigned literal, as it is spelled. -/
structure Literal where
  whole : List Char
  fraction : Option (List Char)
  exponent : Option Exponent
deriving DecidableEq

namespace Exponent

/-- The characters of a power of ten. -/
def spelling (e : Exponent) : List Char :=
  e.marker :: (e.sign.toList ++ e.digits)

/-- The power itself. -/
def value (e : Exponent) : Int :=
  if e.sign = some '-' then -(ofDigits e.digits : Int) else ofDigits e.digits

/-- Splits a sign from the head of a text. -/
def scanSign : List Char → Option Char × List Char
  | '+' :: rest => (some '+', rest)
  | '-' :: rest => (some '-', rest)
  | rest => (none, rest)

/-- Splits a power of ten from the head of a text, taking nothing where the digits are missing. -/
def scan : List Char → Option Exponent × List Char
  | [] => (none, [])
  | marker :: rest =>
    let (sign, digits) := scanSign rest
    if (marker = 'e' ∨ marker = 'E') ∧ digits.takeWhile Char.isDigit ≠ [] then
      (some ⟨marker, sign, digits.takeWhile Char.isDigit⟩, digits.dropWhile Char.isDigit)
    else (none, marker :: rest)

end Exponent

namespace Literal

/-- The characters of a literal. -/
def spelling (l : Literal) : List Char :=
  l.whole ++ (match l.fraction with | none => [] | some digits => '.' :: digits) ++
    (match l.exponent with | none => [] | some e => e.spelling)

/-- Splits the digits and the point of a literal from the head of a text. -/
def scanDigits (cs : List Char) : Option ((List Char × Option (List Char)) × List Char) :=
  -- A point belongs to the literal when digits stand on at least one side of it.
  match cs.takeWhile Char.isDigit, cs.dropWhile Char.isDigit with
  | whole, '.' :: rest =>
    if whole = [] ∧ rest.takeWhile Char.isDigit = [] then none
    else some ((whole, some (rest.takeWhile Char.isDigit)), rest.dropWhile Char.isDigit)
  | whole, rest => if whole = [] then none else some ((whole, none), rest)

/-- Splits the longest literal from the head of a text. -/
def scan (cs : List Char) : Option (Literal × List Char) :=
  (scanDigits cs).map fun ((whole, fraction), rest) =>
    let (exponent, rest) := Exponent.scan rest
    (⟨whole, fraction, exponent⟩, rest)

/-- The power of ten of the last digit of a literal. -/
def scale (l : Literal) : Int :=
  (l.exponent.map Exponent.value).getD 0 - (l.fraction.getD []).length

/-- The magnitude nearest to digits whose last one counts a given power of ten. -/
def magnitude (digits : List Char) (scale : Int) : Nat :=
  -- Past 400 places no nonzero number is finite, and as many places below the first digit none
  -- is positive, so that the power of ten computed stays small.
  let n := ofDigits digits
  if n = 0 then 0
  else if 400 < scale then Double.infiniteMagnitude
  else if scale + digits.length < -400 then 0
  else nearestMagnitude (n * Nat.pow 10 scale.toNat) (Nat.pow 10 (-scale).toNat)

/-- The number nearest to a literal's exact value. -/
def value (l : Literal) (negative : Bool) : Double :=
  .ofMagnitude negative (magnitude (l.whole ++ l.fraction.getD []) l.scale)

end Literal

/-- Reads a text that is one number, signs and outer blanks allowed and overflow refused. -/
def Double.read? (text : String) : Option Double :=
  let (sign, rest) := Exponent.scanSign (Text.trimBlanks text.toList)
  match Literal.scan rest with
  | some (literal, []) =>
    let number := literal.value (sign = some '-')
    if number.isFinite then some number else none
  | _ => none

end Worksheet
