import Worksheet.Formula.Token
import Worksheet.Naming
import Worksheet.Number.Literal

/-!
The pieces of a formula's text: runs of blanks, lexemes, and runs of characters that start neither,
in order and without gaps, and the tokens they stand for.
-/

namespace Worksheet

/-- The smallest meaningful units of a formula's text, as they are spelled. -/
inductive Lexeme
  | leftParen
  | rightParen
  | operator (op : Operator)
  | name (spelling : List Char)
  | literal (value : Literal)

namespace Lexeme

/-- The characters of a lexeme. -/
def spelling : Lexeme → List Char
  | leftParen => ['(']
  | rightParen => [')']
  | operator op => [op.symbol]
  | name spelling => spelling
  | literal value => value.spelling

/-- Splits the longest lexeme from the head of a text. -/
def scan : List Char → Option (Lexeme × List Char)
  | [] => none
  | '(' :: rest => some (leftParen, rest)
  | ')' :: rest => some (rightParen, rest)
  | c :: rest =>
    match Operator.ofSymbol? c with
    | some op => some (operator op, rest)
    | none =>
      if isVariableStart c then
        some (name (c :: rest.takeWhile isVariableChar), rest.dropWhile isVariableChar)
      else (Literal.scan (c :: rest)).map fun (value, after) => (literal value, after)

/-- The token that a lexeme stands for, invalid where a literal has no finite value. -/
def token : Lexeme → Token Double
  | leftParen => .leftParen
  | rightParen => .rightParen
  | operator op => .operator op
  | name spelling => .reference (String.ofList spelling)
  | literal l =>
    if (l.value false).isFinite then .number (l.value false)
    else .invalid (String.ofList l.spelling)

end Lexeme

/-- A part of a formula's text. -/
inductive Piece
  | blanks (run : List Char)
  | lexeme (lexeme : Lexeme)
  | stray (run : List Char)

namespace Piece

/-- The characters of a piece. -/
def spelling : Piece → List Char
  | blanks run => run
  | lexeme l => l.spelling
  | stray run => run

/-- The token of a piece, which blanks do not have. -/
def token? : Piece → Option (Token Double)
  | blanks _ => none
  | lexeme l => some l.token
  | stray run => some (.invalid (String.ofList run))

/-- Splits from the head of a text the characters before the next blank or lexeme. -/
def scanStray : List Char → List Char × List Char
  | [] => ([], [])
  | c :: rest =>
    if Text.isBlank c || (Lexeme.scan (c :: rest)).isSome then ([], c :: rest)
    else
      let (run, after) := scanStray rest
      (c :: run, after)

/-- Splits the next piece from a text that begins with a given character. -/
def scan (c : Char) (rest : List Char) : Piece × List Char :=
  if Text.isBlank c then
    (blanks (c :: rest.takeWhile Text.isBlank), rest.dropWhile Text.isBlank)
  else
    match Lexeme.scan (c :: rest) with
    | some (l, after) => (lexeme l, after)
    | none =>
      let (run, after) := scanStray rest
      (stray (c :: run), after)

end Piece

/-- A power of ten takes characters from the head of a text and adds none. -/
theorem Exponent.scan_length_le (cs : List Char) : (Exponent.scan cs).2.length ≤ cs.length := by
  -- At most a marker, a sign and a run of digits are gone.
  cases cs with
  | nil => simp [Exponent.scan]
  | cons marker rest =>
    have signed : (Exponent.scanSign rest).2.length ≤ rest.length := by
      unfold Exponent.scanSign
      split <;> simp
    have dropped := (List.dropWhile_suffix Char.isDigit (l := (Exponent.scanSign rest).2)).length_le
    simp only [Exponent.scan]
    split <;> simp only [List.length_cons] <;> omega

/-- A literal takes at least one character from the head of a text. -/
theorem Literal.scanDigits_length_lt {cs rest : List Char}
    {parts : List Char × Option (List Char)}
    (scanned : Literal.scanDigits cs = some (parts, rest)) : rest.length < cs.length := by
  -- Either a point is gone, or the run of digits before it is not empty.
  have whole := congrArg List.length (List.takeWhile_append_dropWhile (p := Char.isDigit) (l := cs))
  simp only [List.length_append] at whole
  unfold Literal.scanDigits at scanned
  split at scanned
  · -- A point stands behind the digits and is taken with them.
    rename_i after dropped
    have shorter := (List.dropWhile_suffix Char.isDigit (l := after)).length_le
    rw [dropped] at whole
    simp only [List.length_cons] at whole
    split at scanned
    · simp at scanned
    · simp only [Option.some.injEq, Prod.mk.injEq] at scanned
      rw [← scanned.2]
      omega
  · split at scanned
    · simp at scanned
    · -- Without a point there is at least one digit.
      rename_i nonempty
      simp only [Option.some.injEq, Prod.mk.injEq] at scanned
      have positive := List.length_pos_iff.mpr nonempty
      rw [← scanned.2]
      omega

/-- A lexeme takes at least one character from the head of a text. -/
theorem Lexeme.scan_length_lt {cs rest : List Char} {l : Lexeme}
    (scanned : Lexeme.scan cs = some (l, rest)) : rest.length < cs.length := by
  -- Signs and names take their first character, and literals take a digit or a point.
  unfold Lexeme.scan at scanned
  split at scanned
  · simp at scanned
  · simp_all
  · simp_all
  · rename_i c tail _ _
    split at scanned
    · simp_all
    · split at scanned
      · -- A name takes its first character and then a run.
        simp only [Option.some.injEq, Prod.mk.injEq] at scanned
        have shorter := (List.dropWhile_suffix isVariableChar (l := tail)).length_le
        rw [← scanned.2, List.length_cons]
        omega
      · -- A literal takes its digits before it looks for an exponent.
        simp only [Literal.scan, Option.map_map, Option.map_eq_some_iff] at scanned
        obtain ⟨⟨parts, after⟩, digits, same⟩ := scanned
        have shorter := Literal.scanDigits_length_lt digits
        have exponent := Exponent.scan_length_le after
        simp only [Function.comp, Prod.mk.injEq] at same
        rw [← same.2]
        omega

/-- A run of stray characters adds nothing to the text it is split from. -/
theorem Piece.scanStray_length_le (cs : List Char) : (Piece.scanStray cs).2.length ≤ cs.length := by
  -- Each step leaves the text alone or gives up its first character.
  induction cs with
  | nil => simp [Piece.scanStray]
  | cons c rest ih =>
    simp only [Piece.scanStray]
    split <;> simp only [List.length_cons] <;> omega

/-- Every piece takes at least one character. -/
theorem Piece.scan_length_le (c : Char) (rest : List Char) :
    (Piece.scan c rest).2.length ≤ rest.length := by
  -- Blanks and strays take the first character, and a lexeme is never empty.
  have blank := (List.dropWhile_suffix Text.isBlank (l := rest)).length_le
  have strays := Piece.scanStray_length_le rest
  unfold Piece.scan
  split
  · exact blank
  · split
    · rename_i l after scanned
      have shorter := Lexeme.scan_length_lt scanned
      simp only [List.length_cons] at shorter ⊢
      omega
    · exact strays

/-- The pieces of a text from its head to its end. -/
def Piece.ofChars : List Char → List Piece
  | [] => []
  | c :: rest =>
    let next := Piece.scan c rest
    next.1 :: Piece.ofChars next.2
termination_by cs => cs.length
decreasing_by exact Nat.lt_succ_of_le (Piece.scan_length_le c rest)

/-- The tokens of a text, one for each piece that is not blank. -/
def Token.ofText (text : String) : List (Token Double) :=
  (Piece.ofChars text.toList).filterMap Piece.token?

end Worksheet
