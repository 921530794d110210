import Worksheet.Text.Hexadecimal

/-!
The tokens of JSON text. A string may hold escapes that are no characters, which matters only where
the string is used, and of all other scalars only their form is checked.
-/

namespace Worksheet.Json

/-- One unit of a string: a character, or a 16-bit code written as an escape. -/
inductive StringUnit
  | char (c : Char)
  | code (value : Nat)
deriving DecidableEq

/-- The characters that the units of a string make, if every code is one or half of a pair. -/
def decodeUnits : List StringUnit → Option (List Char)
  | [] => some []
  | .char c :: rest => (decodeUnits rest).map (c :: ·)
  | .code high :: rest =>
    if high < 0xD800 ∨ 0xE000 ≤ high then (decodeUnits rest).map (Char.ofNat high :: ·)
    else if high < 0xDC00 then
      match rest with
      | .code low :: rest =>
        if 0xDC00 ≤ low ∧ low < 0xE000 then
          let value := 0x10000 + (high - 0xD800) * 0x400 + (low - 0xDC00)
          (decodeUnits rest).map (Char.ofNat value :: ·)
        else none
      | _ => none
    else none

/-- The character that a short escape stands for. -/
def shortEscape? : Char → Option Char
  | '"' => some '"'
  | '\\' => some '\\'
  | '/' => some '/'
  | 'b' => some '\x08'
  | 'f' => some '\x0c'
  | 'n' => some '\n'
  | 'r' => some '\r'
  | 't' => some '\t'
  | _ => none

/-- Splits the rest of a string, up to its closing quote, from a text, given the units before. -/
def scanString (done : List StringUnit) : List Char → Option (List StringUnit × List Char)
  | [] => none
  | '"' :: rest => some (done.reverse, rest)
  | '\\' :: 'u' :: a :: b :: c :: d :: rest =>
    match Text.hexNumber? [a, b, c, d] with
    | some value => scanString (.code value :: done) rest
    | none => none
  | '\\' :: c :: rest =>
    match shortEscape? c with
    | some c => scanString (.char c :: done) rest
    | none => none
  | c :: rest =>
    if c = '\\' ∨ c.val < 0x20 then none else scanString (.char c :: done) rest

/-- A token, a string with its characters if it has any and any other scalar without its value. -/
inductive Token
  | openBrace
  | closeBrace
  | openBracket
  | closeBracket
  | colon
  | comma
  | string (value : Option String)
  | scalar
deriving DecidableEq

/-- The token of a punctuation mark. -/
def punctuation? : Char → Option Token
  | '{' => some .openBrace
  | '}' => some .closeBrace
  | '[' => some .openBracket
  | ']' => some .closeBracket
  | ':' => some .colon
  | ',' => some .comma
  | _ => none

/-- Whether a character separates tokens. -/
def isSpace (c : Char) : Bool :=
  c = ' ' || c = '\t' || c = '\n' || c = '\r'

/-- Whether a character may stand in a number or in a word. -/
def isScalarChar (c : Char) : Bool :=
  c.isAlphanum || c = '+' || c = '-' || c = '.'

/-- Whether a text is one or more digits. -/
def isDigits (cs : List Char) : Bool :=
  cs ≠ [] && cs.all Char.isDigit

/-- Whether a text is nothing, or a power of ten. -/
def isExponent : List Char → Bool
  | [] => true
  | marker :: '+' :: digits => (marker = 'e' || marker = 'E') && isDigits digits
  | marker :: '-' :: digits => (marker = 'e' || marker = 'E') && isDigits digits
  | marker :: digits => (marker = 'e' || marker = 'E') && isDigits digits

/-- Whether a text is what may follow the whole part of a number. -/
def isFraction : List Char → Bool
  | '.' :: rest =>
    rest.takeWhile Char.isDigit ≠ [] && isExponent (rest.dropWhile Char.isDigit)
  | rest => isExponent rest

/-- Whether a text is a number without a sign, no zero standing before another digit. -/
def isUnsigned (cs : List Char) : Bool :=
  match cs with
  | '0' :: rest => isFraction rest
  | _ => cs.takeWhile Char.isDigit ≠ [] && isFraction (cs.dropWhile Char.isDigit)

/-- Whether a text is a number, a truth value or the null value. -/
def isScalar (cs : List Char) : Bool :=
  match cs with
  | '-' :: rest => isUnsigned rest
  | _ => isUnsigned cs || cs = "true".toList || cs = "false".toList || cs = "null".toList

/-- What is left behind a string is shorter than the text it was split from. -/
theorem scanString_length_lt {done units : List StringUnit} {cs rest : List Char}
    (scanned : scanString done cs = some (units, rest)) : rest.length < cs.length := by
  -- Every step gives up a character, and the last one the closing quote.
  fun_induction scanString done cs <;> simp_all <;> omega

/-- The tokens of a text, given those before it, the latest first. -/
def tokensFrom (done : List Token) : List Char → Option (List Token)
  | [] => some done.reverse
  | c :: rest =>
    if isSpace c then tokensFrom done rest
    else if c = '"' then
      match scanned : scanString [] rest with
      | some (units, after) =>
        have : after.length < rest.length := scanString_length_lt scanned
        tokensFrom (.string ((decodeUnits units).map String.ofList) :: done) after
      | none => none
    else
      match punctuation? c with
      | some mark => tokensFrom (mark :: done) rest
      | none =>
        if isScalar (c :: rest.takeWhile isScalarChar) then
          tokensFrom (.scalar :: done) (rest.dropWhile isScalarChar)
        else none
termination_by cs => cs.length
decreasing_by
  · simp
  · exact Nat.lt_succ_of_lt (by assumption)
  · simp
  · exact Nat.lt_succ_of_le (List.dropWhile_suffix isScalarChar).length_le

/-- The tokens of a text, if it has no other characters than blanks between them. -/
def Token.ofText (text : String) : Option (List Token) :=
  tokensFrom [] text.toList

end Worksheet.Json
