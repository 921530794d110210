import Worksheet.Text.LetterCase.Table

/-!
Capitals and small letters of any script, where a letter may take several characters and a sigma
takes its final form at the end of a word.
-/

namespace Worksheet.Text

namespace LetterCase

/-- Moves a character by the first shift that covers it. -/
def shift (shifts : List Shift) (c : Char) : Char :=
  -- A shift covers the code points reached from its first one by whole steps.
  let code := c.toNat
  match shifts.find? fun s =>
      s.first ≤ code && code ≤ s.last && (code - s.first) % s.step == 0 with
  | some s => Char.ofNat (code + s.offset).toNat
  | none => c

/-- Whether a code point lies in one of some ranges. -/
def inRanges (ranges : List (Nat × Nat)) (c : Char) : Bool :=
  ranges.any fun (first, last) => first ≤ c.toNat && c.toNat ≤ last

/-- Whether a character has a case at all. -/
def isCased : Char → Bool :=
  inRanges casedRanges

/-- Whether a character is passed over when the letters around a sigma are looked at. -/
def isIgnorable : Char → Bool :=
  inRanges caseIgnorableRanges

/-- The capital of one character. -/
def upperChar (c : Char) : List Char :=
  if c.toNat < 128 then [c.toUpper]
  else (upperSpecials.lookup c).getD [shift upperShifts c]

/-- The small letter of one character outside any word. -/
def lowerChar (c : Char) : List Char :=
  if c.toNat < 128 then [c.toLower]
  else if c = '\u0130' then ['i', '\u0307']
  else [shift lowerShifts c]

/-- Whether the next character that is not passed over has a case. -/
def startsCased (cs : List Char) : Bool :=
  (cs.dropWhile isIgnorable).head?.any isCased

/-- Lowers a text, given whether the character before it that is not passed over has a case. -/
def lowerFrom (afterCased : Bool) : List Char → List Char
  | [] => []
  | c :: rest =>
    -- A sigma that ends a word of more than one letter is final.
    let small :=
      if c = '\u03a3' then
        if afterCased && !startsCased rest then ['\u03c2'] else ['\u03c3']
      else lowerChar c
    small ++ lowerFrom (if isIgnorable c then afterCased else isCased c) rest

end LetterCase

/-- The text in capitals. -/
def toUpper (s : String) : String :=
  String.ofList (s.toList.flatMap LetterCase.upperChar)

/-- The text in small letters. -/
def toLower (s : String) : String :=
  String.ofList (LetterCase.lowerFrom false s.toList)

end Worksheet.Text
