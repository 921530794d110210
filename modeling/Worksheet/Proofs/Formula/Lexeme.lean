import Mathlib.Data.List.Chain
import Worksheet.Formula.Piece
import Worksheet.Proofs.Number.Literal

/-!
Lexemes written one behind the other, with blanks between them or without, are the lexemes that the
text is split into, unless a name or a literal runs into the next one.
-/

namespace Worksheet

open Text (Stops)

namespace Lexeme

/-- Whether a name is spelled as variables are and a literal has digits. -/
def WellFormed : Lexeme → Prop
  | name spelling => isVariable (String.ofList spelling) = true
  | literal value => value.WellFormed
  | _ => True

/-- Whether a lexeme is a name or a literal, which another one could run into. -/
def isWord : Lexeme → Bool
  | name _ | literal _ => true
  | _ => false

variable {c : Char} {rest : List Char} {l : Lexeme}

/-- A name is a first character and others that may follow it. -/
theorem exists_of_name {spelling : List Char} (formed : (name spelling).WellFormed) :
    ∃ first others, spelling = first :: others ∧ isVariableStart first = true ∧
      ∀ c ∈ others, isVariableChar c = true := by
  have legal : isVariable (String.ofList spelling) = true := formed
  rw [isVariable, String.toList_ofList] at legal
  cases spelling with
  | nil => cases legal
  | cons first others =>
    -- A variable has a rule for its first character and one for all others.
    rw [Bool.and_eq_true, List.all_eq_true] at legal
    exact ⟨first, others, rfl, legal.1, legal.2⟩

/-- What begins a variable could also go on with one. -/
theorem goesOn_of_isVariableStart (starts : isVariableStart c = true) : goesOn c = true := by
  -- A letter or an underscore may stand anywhere in a variable.
  simp only [isVariableStart, Bool.or_eq_true] at starts
  simp only [goesOn, isVariableChar, Char.isAlphanum, Bool.or_eq_true]
  exact Or.inl (starts.imp_left Or.inl)

/-- No character of a variable could not go on with it. -/
theorem goesOn_of_mem {name : String} (legal : isVariable name = true) (member : c ∈ name.toList) :
    goesOn c = true := by
  -- The first character begins a variable, and all others may go on with it.
  rw [← String.ofList_toList (s := name)] at legal
  obtain ⟨first, others, spelled, starts, follow⟩ := exists_of_name legal
  rw [spelled] at member
  rcases List.mem_cons.mp member with rfl | later
  · exact goesOn_of_isVariableStart starts
  · exact Bool.or_eq_true_iff.mpr (Or.inl (follow c later))

/-- What begins a literal could also go on with one, but it does not begin a variable. -/
theorem goesOn_of_literal (first : c.isDigit = true ∨ c = '.') :
    goesOn c = true ∧ isVariableStart c = false := by
  rcases first with digit | rfl
  · -- The digits are gone through with the other characters of ASCII.
    have ascii := @Text.LetterCase.ascii c (fun c => c.isDigit = true → isVariableStart c = false)
      (by decide)
    have small : c.toNat < 128 := Nat.lt_of_le_of_lt (Char.isDigit_iff_toNat.mp digit).2 (by decide)
    exact ⟨goesOn_of_isDigit digit, ascii small digit⟩
  · decide

/-- A character that could go on with a word is neither a parenthesis nor the sign of an operator. -/
theorem scan_of_goesOn (word : goesOn c = true) :
    scan (c :: rest) =
      if isVariableStart c then
        some (name (c :: rest.takeWhile isVariableChar), rest.dropWhile isVariableChar)
      else (Literal.scan (c :: rest)).map fun (value, after) => (literal value, after) := by
  -- The signs are single characters, and none of them is a letter, a digit or a point.
  have unsigned : Operator.ofSymbol? c = none := by
    unfold Operator.ofSymbol?
    split
    · exact absurd word (by decide)
    · exact absurd word (by decide)
    · exact absurd word (by decide)
    · exact absurd word (by decide)
    · rfl
  -- The cases before the operators are ruled out by the first character as well.
  unfold scan
  split
  · rename_i none
    cases none
  · rename_i opening
    cases opening
    exact absurd word (by decide)
  · rename_i closing
    cases closing
    exact absurd word (by decide)
  · rename_i same
    cases same
    rw [unsigned]

/-- A lexeme is split whole from a text unless it is a word that what follows goes on with. -/
theorem scan_spelling (formed : l.WellFormed) (stops : l.isWord = true → Stops goesOn rest) :
    scan (l.spelling ++ rest) = some (l, rest) := by
  cases l with
  | leftParen => rfl
  | rightParen => rfl
  | operator op => cases op <;> rfl
  | name spelling =>
    obtain ⟨first, others, rfl, starts, follow⟩ := exists_of_name formed
    -- The name is taken up to where no name goes on, which is where no word does.
    have behind : Stops isVariableChar rest := by
      intro c head
      exact (Bool.or_eq_false_iff.mp (stops rfl c head)).1
    have word := goesOn_of_isVariableStart starts
    calc scan (first :: (others ++ rest))
      _ = some (name (first :: (others ++ rest).takeWhile isVariableChar),
            (others ++ rest).dropWhile isVariableChar) := by
        rw [scan_of_goesOn word, if_pos starts]
      _ = some (name (first :: others), rest) := by
        rw [Text.takeWhile_append follow behind, Text.dropWhile_append follow behind]
  | literal value =>
    -- What begins a literal begins no name, and so the literal is looked for.
    have whole := Literal.scan_spelling formed (stops rfl)
    obtain ⟨first, others, spelled, begins⟩ := Literal.exists_of_spelling formed
    obtain ⟨word, starts⟩ := goesOn_of_literal begins
    simp only [spelling, spelled, List.cons_append] at whole ⊢
    rw [scan_of_goesOn word, starts, whole]
    rfl

/-- A lexeme begins with a character that is not blank, and one that could go on with a word if it is
one itself. -/
theorem exists_of_spelling (formed : l.WellFormed) :
    ∃ first others, l.spelling = first :: others ∧ Text.isBlank first = false ∧
      goesOn first = l.isWord := by
  -- A sign stands for itself, and names and literals begin with a character of a word.
  cases l with
  | leftParen => exact ⟨'(', [], rfl, by decide, by decide⟩
  | rightParen => exact ⟨')', [], rfl, by decide, by decide⟩
  | operator op => cases op <;> exact ⟨_, [], rfl, by decide, by decide⟩
  | name spelling =>
    obtain ⟨first, others, rfl, starts, -⟩ := exists_of_name formed
    have word := goesOn_of_isVariableStart starts
    exact ⟨first, others, rfl, isBlank_of_goesOn word, word⟩
  | literal value =>
    obtain ⟨first, others, spelled, begins⟩ := Literal.exists_of_spelling formed
    have word := (goesOn_of_literal begins).1
    exact ⟨first, others, spelled, isBlank_of_goesOn word, word⟩

end Lexeme

namespace Piece

variable {cs rest gap : List Char} {l : Lexeme}

/-- The next piece of a text comes before those of what is left. -/
theorem ofChars_cons (c : Char) (rest : List Char) :
    ofChars (c :: rest) = (scan c rest).1 :: ofChars (scan c rest).2 := by
  rw [ofChars]

/-- A lexeme at the head of a text is a piece of it unless what follows goes on with it. -/
theorem ofChars_lexeme (formed : l.WellFormed) (stops : l.isWord = true → Stops goesOn rest) :
    ofChars (l.spelling ++ rest) = lexeme l :: ofChars rest := by
  obtain ⟨first, others, spelled, solid, -⟩ := Lexeme.exists_of_spelling formed
  have scanned := Lexeme.scan_spelling formed stops
  rw [spelled, List.cons_append] at scanned ⊢
  -- Blanks are looked for first, and strays only where no lexeme begins.
  have next : scan first (others ++ rest) = (lexeme l, rest) := by
    simp only [scan, solid, Bool.false_eq_true, if_false, scanned]
  rw [ofChars_cons, next]

/-- Blanks at the head of a text add no token. -/
theorem tokens_dropWhile (cs : List Char) :
    (ofChars (cs.dropWhile Text.isBlank)).filterMap token? = (ofChars cs).filterMap token? := by
  cases cs with
  | nil => rfl
  | cons c rest =>
    cases blank : Text.isBlank c with
    | false => simp [blank]
    | true =>
      -- All the blanks are one piece, which has no token.
      have next : scan c rest =
          (blanks (c :: rest.takeWhile Text.isBlank), rest.dropWhile Text.isBlank) := by
        simp only [scan, blank, if_true]
      rw [ofChars_cons, next, List.filterMap_cons_none rfl, List.dropWhile_cons_of_pos blank]

/-- Blanks before a text add no token. -/
theorem tokens_append (blank : ∀ c ∈ gap, Text.isBlank c = true) (rest : List Char) :
    (ofChars (gap ++ rest)).filterMap token? = (ofChars rest).filterMap token? := by
  rw [← tokens_dropWhile, List.dropWhile_append_of_pos blank, tokens_dropWhile]

end Piece

/-- Lexemes, each with the blanks behind it. -/
abbrev Spaced :=
  List (Lexeme × List Char)

namespace Spaced

/-- The text of some lexemes with their blanks. -/
def text (spaced : Spaced) : List Char :=
  spaced.flatMap fun (l, gap) => l.spelling ++ gap

/-- Whether lexemes are spelled as such and no word stands directly before another one. -/
structure WellFormed (spaced : Spaced) : Prop where
  formed : ∀ entry ∈ spaced, entry.1.WellFormed
  blank : ∀ entry ∈ spaced, ∀ c ∈ entry.2, Text.isBlank c = true
  apart : spaced.IsChain fun a b => a.2 = [] → a.1.isWord = true → b.1.isWord = false

variable {l : Lexeme} {gap : List Char} {spaced : Spaced}

/-- A word is not gone on with by the blanks and the lexemes behind it. -/
theorem WellFormed.stops (wellFormed : WellFormed ((l, gap) :: spaced)) (word : l.isWord = true) :
    Stops goesOn (gap ++ text spaced) := by
  cases gap with
  | cons c others =>
    -- A blank ends every word.
    have blank := wellFormed.blank _ List.mem_cons_self c List.mem_cons_self
    rw [List.cons_append, Text.stops_cons, Bool.eq_false_iff]
    intro inside
    rw [isBlank_of_goesOn inside] at blank
    cases blank
  | nil =>
    cases spaced with
    | nil => exact Text.stops_nil
    | cons next others =>
      -- Without a blank between them the next lexeme is no word.
      have formed := wellFormed.formed next (List.mem_cons_of_mem _ List.mem_cons_self)
      have other := (List.isChain_cons_cons.mp wellFormed.apart).1 rfl word
      obtain ⟨first, tail, spelled, -, same⟩ := Lexeme.exists_of_spelling formed
      simp only [text, List.flatMap_cons, spelled, List.nil_append, List.cons_append]
      rw [Text.stops_cons, same, other]

/-- What is behind the first lexeme is well-formed as well. -/
theorem WellFormed.tail {entry : Lexeme × List Char} (wellFormed : WellFormed (entry :: spaced)) :
    WellFormed spaced :=
  -- All that is asked of the entries is asked of those behind the first, too.
  ⟨fun other member => wellFormed.formed other (List.mem_cons_of_mem entry member),
    fun other member => wellFormed.blank other (List.mem_cons_of_mem entry member),
    wellFormed.apart.tail⟩

/-- The tokens of a text are those of the lexemes that it was put together from. -/
theorem WellFormed.tokens (wellFormed : WellFormed spaced) :
    (Piece.ofChars (text spaced)).filterMap Piece.token? = spaced.map fun entry => entry.1.token := by
  induction spaced with
  | nil => simp [text, Piece.ofChars]
  | cons entry others ih =>
    obtain ⟨l, gap⟩ := entry
    have formed : l.WellFormed := wellFormed.formed _ List.mem_cons_self
    have blank : ∀ c ∈ gap, Text.isBlank c = true := wellFormed.blank _ List.mem_cons_self
    have spelled : text ((l, gap) :: others) = l.spelling ++ (gap ++ text others) := by
      simp [text]
    have token : Piece.token? (.lexeme l) = some l.token := rfl
    -- The first lexeme is split off, and the blanks behind it count for nothing.
    rw [spelled, Piece.ofChars_lexeme formed wellFormed.stops, List.filterMap_cons_some token,
      Piece.tokens_append blank, ih wellFormed.tail, List.map_cons]

end Spaced

end Worksheet
