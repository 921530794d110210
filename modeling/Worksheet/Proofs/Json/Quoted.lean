import Mathlib.Tactic.SplitIfs
import Worksheet.Json.Quoted
import Worksheet.Json.Token

/-! A string is scanned from its written form, whatever stands behind the closing quote. -/

namespace Worksheet.Json

variable {c : Char} {done : List StringUnit} {rest : List Char}

/-- A short escape is scanned as the character that it stands for. -/
theorem scanString_shortEscape {letter : Char} (short : shortEscape? letter = some c) :
    scanString done ('\\' :: letter :: rest) = scanString (.char c :: done) rest := by
  -- No character has the letter of numbered escapes for its own.
  have unnumbered : letter ≠ 'u' := by
    rintro rfl
    cases short
  rw [scanString, short]
  intros
  contradiction

/-- A numbered escape is scanned as its number. -/
theorem scanString_code {a b x y : Char} {value : Nat}
    (number : Text.hexNumber? [a, b, x, y] = some value) :
    scanString done ('\\' :: 'u' :: a :: b :: x :: y :: rest) =
      scanString (.code value :: done) rest := by
  rw [scanString, number]

/-- A character that needs no escape is scanned as it stands. -/
theorem scanString_plain (quote : c ≠ '"') (backslash : c ≠ '\\') (printed : ¬c.toNat < 0x20) :
    scanString done (c :: rest) = scanString (.char c :: done) rest := by
  have allowed : ¬(c = '\\' ∨ c.val < 0x20) := by
    rintro (same | control)
    · exact backslash same
    · exact printed (UInt32.lt_iff_toNat_lt.mp control)
  rw [scanString, if_neg allowed]
  -- The other readings begin with a quote or a backslash.
  all_goals
    intros
    contradiction

/-- A number below those of pairs is the character with that code point. -/
theorem decodeUnits_code {value : Nat} (single : value < 0xD800) (units : List StringUnit) :
    decodeUnits (.code value :: units) = (decodeUnits units).map (Char.ofNat value :: ·) := by
  -- Numbers on either side of the pairs stand for themselves.
  have first : value < 0xD800 ∨ 0xE000 ≤ value := Or.inl single
  -- The second half of a pair is looked for in what follows only behind a first half.
  cases units with
  | nil => simp only [decodeUnits, if_pos first]
  | cons unit others => cases unit <;> simp only [decodeUnits, if_pos first]

/-- Each written character is scanned as one unit, which makes that character. -/
theorem exists_unit (c : Char) : ∃ unit,
    (∀ done rest, scanString done (quoteChar c ++ rest) = scanString (unit :: done) rest) ∧
    ∀ units, decodeUnits (unit :: units) = (decodeUnits units).map (c :: ·) := by
  -- A short escape is one unit, whichever letter it has.
  have short {letter : Char} (stands : shortEscape? letter = some c) : ∃ unit,
      (∀ done rest, scanString done (['\\', letter] ++ rest) = scanString (unit :: done) rest) ∧
      ∀ units, decodeUnits (unit :: units) = (decodeUnits units).map (c :: ·) :=
    ⟨.char c, fun _ _ => scanString_shortEscape stands, fun _ => rfl⟩
  unfold quoteChar
  split_ifs with quote backslash backspace page feed ret tab control
  · exact short (by rw [quote]; rfl)
  · exact short (by rw [backslash]; rfl)
  · exact short (by rw [backspace]; rfl)
  · exact short (by rw [page]; rfl)
  · exact short (by rw [feed]; rfl)
  · exact short (by rw [ret]; rfl)
  · exact short (by rw [tab]; rfl)
  · -- A control character without a short escape is written as its number, which is not half a pair.
    have number := Text.hexNumber?_hexChar (n := c.toNat) (by omega)
    refine ⟨.code c.toNat, fun _ _ => scanString_code number, fun units => ?_⟩
    rw [decodeUnits_code (by omega), Char.ofNat_toNat]
  · -- Every other character stands for itself.
    exact ⟨.char c, fun _ _ => scanString_plain quote backslash control, fun _ => rfl⟩

/-- The written characters of a text are scanned as units that make the text. -/
theorem exists_units (text : List Char) : ∃ units,
    (∀ done rest, scanString done (text.flatMap quoteChar ++ '"' :: rest) =
      some (done.reverse ++ units, rest)) ∧
    decodeUnits units = some text := by
  -- Each character becomes one unit, which is scanned and decoded in front of the others.
  induction text with
  | nil =>
    refine ⟨[], fun done rest => ?_, rfl⟩
    rw [List.flatMap_nil, List.nil_append, scanString, List.append_nil]
  | cons c others ih =>
    obtain ⟨unit, scanned, decoded⟩ := exists_unit c
    obtain ⟨units, scannedOthers, decodedOthers⟩ := ih
    refine ⟨unit :: units, fun done rest => ?_, ?_⟩
    · rw [List.flatMap_cons, List.append_assoc, scanned, scannedOthers, List.reverse_cons,
        List.append_assoc, List.singleton_append]
    · rw [decoded, decodedOthers, Option.map_some]

/-- A quoted string is read as the token of that string. -/
theorem tokensFrom_quote (done : List Token) (text : String) (rest : List Char) :
    tokensFrom done (quote text ++ rest) = tokensFrom (.string (some text) :: done) rest := by
  -- The quoted text is scanned as units that are decoded to it.
  obtain ⟨units, scanned, decoded⟩ := exists_units text.toList
  have whole : scanString [] (text.toList.flatMap quoteChar ++ '"' :: rest) = some (units, rest) :=
    scanned [] rest
  rw [quote, List.cons_append, List.cons_append, List.append_assoc, List.singleton_append, tokensFrom,
    if_neg (by decide), if_pos rfl]
  -- The scanner of strings has been called behind the opening quote.
  split
  · rename_i found same
    rw [whole] at same
    cases same
    rw [decoded, Option.map_some, String.ofList_toList]
  · rename_i same
    rw [whole] at same
    cases same

end Worksheet.Json
