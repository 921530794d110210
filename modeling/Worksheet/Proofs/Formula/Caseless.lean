import Worksheet.Proofs.Formula.Check
import Worksheet.Proofs.Formula.Lexeme
import Worksheet.Proofs.Text.Caseless

/-!
A text made caseless is split where it was split before, so that its tokens, and the rule that they
break if they break one, are those of the text made caseless. Under a naming that ignores case the
formulas are equal.
-/

namespace Worksheet

open Text (caseless caseless_ofList toLower_congr takeWhile_map_toLower dropWhile_map_toLower)
open Text.LetterCase (toLower_eq_iff)

variable {c : Char} {cs rest : List Char}

/-- Whether a character is a digit does not depend on its case. -/
theorem isDigit_toLower (c : Char) : c.toLower.isDigit = c.isDigit :=
  toLower_congr (by decide) c

/-- Digits have no case. -/
theorem takeWhile_isDigit_toLower (cs : List Char) :
    (cs.map Char.toLower).takeWhile Char.isDigit = cs.takeWhile Char.isDigit := by
  have fixed : ∀ c ∈ cs.takeWhile Char.isDigit, c.toLower = id c := by
    intro c member
    -- The digits are gone through with the other characters of ASCII.
    have digit : c.isDigit = true := List.all_eq_true.mp List.all_takeWhile c member
    have ascii := @Text.LetterCase.ascii c (fun c => c.isDigit = true → c.toLower = c) (by decide)
    have small : c.toNat < 128 := Nat.lt_of_le_of_lt (Char.isDigit_iff_toNat.mp digit).2 (by decide)
    exact ascii small digit
  rw [takeWhile_map_toLower isDigit_toLower, List.map_congr_left fixed, List.map_id]

/-- What follows the digits at the head of a text follows them still. -/
theorem dropWhile_isDigit_toLower (cs : List Char) :
    (cs.map Char.toLower).dropWhile Char.isDigit = (cs.dropWhile Char.isDigit).map Char.toLower :=
  dropWhile_map_toLower isDigit_toLower cs

namespace Exponent

/-- The power of ten with a small marker. -/
def caseless (e : Exponent) : Exponent :=
  { e with marker := e.marker.toLower }

/-- Signs have no case. -/
theorem scanSign_toLower (cs : List Char) :
    scanSign (cs.map Char.toLower) = ((scanSign cs).1, (scanSign cs).2.map Char.toLower) := by
  cases cs with
  | nil => rfl
  | cons c rest =>
    -- The two signs have no case.
    by_cases signed : c = '+' ∨ c = '-'
    · rcases signed with rfl | rfl
      · rfl
      · rfl
    · -- What is no sign does not become one.
      have unsigned : c ≠ '+' ∧ c ≠ '-' := not_or.mp signed
      have lowered : c.toLower ≠ '+' ∧ c.toLower ≠ '-' := by
        rwa [Ne, Ne, toLower_eq_iff (by decide), toLower_eq_iff (by decide)]
      have before : scanSign (c :: rest) = (none, c :: rest) :=
        scanSign_unsigned (by simpa using unsigned)
      have after : scanSign (c.toLower :: rest.map Char.toLower) =
          (none, c.toLower :: rest.map Char.toLower) :=
        scanSign_unsigned (by simpa using lowered)
      rw [List.map_cons, before, after]
      rfl

/-- A power of ten is split off whichever case its marker has. -/
theorem scan_toLower (cs : List Char) : scan (cs.map Char.toLower) =
    ((scan cs).1.map caseless, (scan cs).2.map Char.toLower) := by
  -- The mark of an exponent is one in either case, and signs and digits have no case.
  cases cs with
  | nil => rfl
  | cons marker rest =>
    have marked : marker.toLower = 'e' ∨ marker.toLower = 'E' ↔ marker = 'e' ∨ marker = 'E' :=
      decide_eq_decide.mp
        (toLower_congr (f := fun c => decide (c = 'e' ∨ c = 'E')) (by decide) marker)
    simp only [List.map_cons, scan, scanSign_toLower, takeWhile_isDigit_toLower,
      dropWhile_isDigit_toLower, marked]
    split
    · rfl
    · rfl

end Exponent

namespace Literal

variable {l : Literal}

/-- The literal with a small marker of its power of ten. -/
def caseless (l : Literal) : Literal :=
  { l with exponent := l.exponent.map Exponent.caseless }

/-- Without a point behind them, digits are all that is split off. -/
theorem scanDigits_of_pointless (pointless : (cs.dropWhile Char.isDigit).head? ≠ some '.') :
    scanDigits cs = if cs.takeWhile Char.isDigit = [] then none
      else some ((cs.takeWhile Char.isDigit, none), cs.dropWhile Char.isDigit) := by
  -- The other case of the split is the one with a point.
  unfold scanDigits
  split
  · rename_i rest pointed
    exact absurd (by rw [pointed]; rfl) pointless
  · rfl

/-- The digits and the point of a literal have no case. -/
theorem scanDigits_toLower (cs : List Char) : scanDigits (cs.map Char.toLower) =
    (scanDigits cs).map fun parts => (parts.1, parts.2.map Char.toLower) := by
  by_cases pointed : (cs.dropWhile Char.isDigit).head? = some '.'
  · -- The digits behind the point are taken like those before it.
    obtain ⟨rest, behind⟩ := List.head?_eq_some_iff.mp pointed
    have point : Char.toLower '.' = '.' := rfl
    simp only [scanDigits, takeWhile_isDigit_toLower, dropWhile_isDigit_toLower, behind,
      List.map_cons, point]
    split
    · rfl
    · rfl
  · -- What is no point does not become one.
    have pointless : ((cs.map Char.toLower).dropWhile Char.isDigit).head? ≠ some '.' := by
      rw [dropWhile_isDigit_toLower, List.head?_map]
      intro found
      obtain ⟨c, first, same⟩ := Option.map_eq_some_iff.mp found
      exact pointed (first.trans (congrArg some ((toLower_eq_iff (by decide)).mp same)))
    rw [scanDigits_of_pointless pointless, scanDigits_of_pointless pointed,
      takeWhile_isDigit_toLower, dropWhile_isDigit_toLower]
    split
    · rfl
    · rfl

/-- A literal is split off whichever case the marker of its power of ten has. -/
theorem scan_toLower (cs : List Char) : scan (cs.map Char.toLower) =
    (scan cs).map fun part => (part.1.caseless, part.2.map Char.toLower) := by
  -- The power of ten is looked for in what the digits leave, which is made small as well.
  simp only [scan_eq, scanDigits_toLower, Option.map_map]
  congr 1
  funext parts
  simp only [Function.comp, Exponent.scan_toLower, caseless]

/-- The case of the marker does not count for the number of a literal. -/
theorem value_caseless (l : Literal) (negative : Bool) :
    l.caseless.value negative = l.value negative := by
  -- A power is its sign and its digits.
  have exponent : l.caseless.exponent.map Exponent.value = l.exponent.map Exponent.value := by
    rw [caseless, Option.map_map]
    rfl
  rw [value, value, scale, scale, exponent]
  rfl

/-- A literal that is split from a text has its characters made small there. -/
theorem spelling_caseless (scanned : scan cs = some (l, rest)) :
    l.caseless.spelling = l.spelling.map Char.toLower := by
  have lowered : scan (cs.map Char.toLower) = some (l.caseless, rest.map Char.toLower) := by
    rw [scan_toLower, scanned, Option.map_some]
  -- Both are what is gone from the text once the rest is left.
  have before := spelling_append_eq scanned
  have after := spelling_append_eq lowered
  rw [← before, List.map_append] at after
  exact List.append_cancel_right after

end Literal

/-- The token with its spelling made caseless, which numbers, signs and parentheses have none of. -/
def Token.caseless {ν : Type} : Token ν → Token ν
  | .reference name => .reference (Text.caseless name)
  | .invalid text => .invalid (Text.caseless text)
  | token => token

namespace Lexeme

variable {l : Lexeme}

/-- The lexeme spelled with small letters. -/
def caseless : Lexeme → Lexeme
  | name spelling => name (spelling.map Char.toLower)
  | literal value => literal value.caseless
  | lexeme => lexeme

/-- A lexeme is split off whichever case its letters have. -/
theorem scan_toLower (cs : List Char) : scan (cs.map Char.toLower) =
    (scan cs).map fun part => (part.1.caseless, part.2.map Char.toLower) := by
  cases cs with
  | nil => rfl
  | cons c rest =>
    -- Parentheses are told first, by the characters themselves.
    by_cases opening : c = '('
    · subst opening
      rfl
    by_cases closing : c = ')'
    · subst closing
      rfl
    -- No other character becomes a parenthesis, and a character made small is an operator, begins a
    -- name or goes on with one if it did so before.
    have unopened : c.toLower ≠ '(' := by rwa [Ne, toLower_eq_iff (by decide)]
    have unclosed : c.toLower ≠ ')' := by rwa [Ne, toLower_eq_iff (by decide)]
    have symbol : Operator.ofSymbol? c.toLower = Operator.ofSymbol? c := toLower_congr (by decide) c
    have starts : isVariableStart c.toLower = isVariableStart c := toLower_congr (by decide) c
    have follows : ∀ c, isVariableChar c.toLower = isVariableChar c := toLower_congr (by decide)
    have literal := Literal.scan_toLower (c :: rest)
    rw [List.map_cons] at literal ⊢
    simp only [scan, symbol, starts, literal, takeWhile_map_toLower follows,
      dropWhile_map_toLower follows]
    -- An operator or a name is the same scan, and a literal was dealt with above.
    split
    · rfl
    · split
      · rfl
      · simp only [Option.map_map]
        rfl

/-- A literal that is split off as a lexeme is the one at the head of the text. -/
theorem scan_literal {value : Literal} (scanned : scan cs = some (literal value, rest)) :
    Literal.scan cs = some (value, rest) := by
  -- The other lexemes are no literals.
  unfold scan at scanned
  split at scanned
  · cases scanned
  · cases scanned
  · cases scanned
  · split at scanned
    · cases scanned
    · split at scanned
      · cases scanned
      · obtain ⟨part, split_off, same⟩ := Option.map_eq_some_iff.mp scanned
        cases same
        exact split_off

/-- A lexeme that is split from a text is the token there with its spelling made caseless. -/
theorem token_caseless (scanned : scan cs = some (l, rest)) :
    l.caseless.token = l.token.caseless := by
  cases l with
  | name spelling =>
    simp only [caseless, token, Token.caseless, caseless_ofList]
  | literal value =>
    -- The number is the same, and where it is not finite the spelling is made small.
    simp only [caseless, token, Literal.value_caseless,
      Literal.spelling_caseless (scan_literal scanned)]
    split
    · rfl
    · rw [Token.caseless, caseless_ofList]
  | _ => rfl

end Lexeme

namespace Piece

/-- The piece spelled with small letters. -/
def caseless : Piece → Piece
  | blanks run => blanks (run.map Char.toLower)
  | lexeme l => lexeme l.caseless
  | stray run => stray (run.map Char.toLower)

/-- Whether a character is blank does not depend on its case. -/
theorem isBlank_toLower (c : Char) : Text.isBlank c.toLower = Text.isBlank c :=
  toLower_congr (by decide) c

/-- Strays stay strays whichever case they have. -/
theorem scanStray_toLower (cs : List Char) : scanStray (cs.map Char.toLower) =
    ((scanStray cs).1.map Char.toLower, (scanStray cs).2.map Char.toLower) := by
  induction cs with
  | nil => rfl
  | cons c rest ih =>
    -- The run ends where it ended, at a blank or where a lexeme can be split off.
    have lexeme := Lexeme.scan_toLower (c :: rest)
    rw [List.map_cons] at lexeme ⊢
    simp only [scanStray, isBlank_toLower, lexeme, Option.isSome_map, ih]
    split
    · rfl
    · rfl

/-- A piece is split off whichever case its letters have. -/
theorem scan_toLower (c : Char) (rest : List Char) :
    scan c.toLower (rest.map Char.toLower) =
      ((scan c rest).1.caseless, (scan c rest).2.map Char.toLower) := by
  -- Blanks are told from the rest as before, and strays begin where no lexeme can be split off.
  have lexeme := Lexeme.scan_toLower (c :: rest)
  rw [List.map_cons] at lexeme
  simp only [scan, isBlank_toLower, takeWhile_map_toLower isBlank_toLower,
    dropWhile_map_toLower isBlank_toLower, lexeme, scanStray_toLower]
  split
  · rfl
  · cases Lexeme.scan (c :: rest) with
    | none => rfl
    | some part => rfl

/-- A piece that is split from a text has the token there with its spelling made caseless. -/
theorem token?_caseless (c : Char) (rest : List Char) :
    (scan c rest).1.caseless.token? = (scan c rest).1.token?.map Token.caseless := by
  -- Blanks have no token, and a stray is its own spelling.
  simp only [scan]
  split
  · rfl
  · cases scanned : Lexeme.scan (c :: rest) with
    | none =>
      simp only [caseless, token?, Option.map_some, Token.caseless, caseless_ofList]
    | some part =>
      simp only [caseless, token?, Option.map_some, Lexeme.token_caseless scanned]

/-- A text made caseless has the tokens of the text, their spelling made caseless. -/
theorem tokens_toLower (cs : List Char) : (ofChars (cs.map Char.toLower)).filterMap token? =
    ((ofChars cs).filterMap token?).map Token.caseless := by
  -- The induction follows the scanner from piece to piece.
  induction cs using ofChars.induct with
  | case1 => simp [ofChars]
  | case2 c rest next ih =>
    -- The next piece is split off, and the others are those of what it leaves.
    have token := token?_caseless c rest
    rw [List.map_cons, ofChars_cons, ofChars_cons, scan_toLower]
    cases kind : (scan c rest).1.token? with
    -- Blanks give no token.
    | none =>
      rw [kind, Option.map_none] at token
      rw [List.filterMap_cons_none token, List.filterMap_cons_none kind]
      exact ih
    | some first =>
      rw [kind, Option.map_some] at token
      rw [List.filterMap_cons_some token, List.filterMap_cons_some kind, List.map_cons]
      exact congrArg _ ih

end Piece

/-- The tokens of a text made caseless are those of the text, their spelling made caseless. -/
theorem Token.ofText_caseless (text : String) :
    ofText (Text.caseless text) = (ofText text).map caseless := by
  -- The pieces of a text are the same in either case but for their letters.
  rw [ofText, Text.caseless, String.toList_ofList]
  exact Piece.tokens_toLower text.toList

/-- The rule with the spelling that it mentions made caseless. -/
def FormatError.caseless : FormatError → FormatError
  | invalidToken text => invalidToken (Text.caseless text)
  | invalidVariable name => invalidVariable (Text.caseless name)
  | error => error

namespace Token

variable {ν : Type} {accepts : String → Bool}

/-- What may follow an operand does not depend on its case. -/
theorem mayFollowOperand_caseless (next : Option (Token ν)) :
    mayFollowOperand (next.map caseless) = mayFollowOperand next := by
  -- The kind of a token has nothing to do with letters.
  cases next with
  | none => rfl
  | some token => cases token <;> rfl

/-- A token breaks the same rule whichever case it has, if the variables accepted are the same. -/
theorem broken?_caseless (same : ∀ name, accepts (Text.caseless name) = accepts name)
    (opened closed : Nat) (next : Option (Token ν)) (token : Token ν) :
    token.caseless.broken? accepts opened closed (next.map caseless) =
      (token.broken? accepts opened closed next).map FormatError.caseless := by
  cases token with
  | leftParen | operator op =>
    -- The next token is looked at for its kind alone.
    cases next with
    | none => rfl
    | some token => cases token <;> rfl
  -- What may follow an operand is asked of the next token, and of its kind only.
  | rightParen | number value =>
    simp only [caseless, broken?, mayFollowOperand_caseless,
      apply_ite (Option.map FormatError.caseless)]
    rfl
  -- The refusal names the variable as it is spelled.
  | reference name =>
    simp only [caseless, broken?, mayFollowOperand_caseless, same,
      apply_ite (Option.map FormatError.caseless)]
    rfl
  | invalid text => rfl

/-- The first rule broken is the same whichever case the tokens have. -/
theorem checkFrom_caseless (same : ∀ name, accepts (Text.caseless name) = accepts name)
    (opened closed : Nat) (tokens : List (Token ν)) :
    checkFrom accepts opened closed (tokens.map caseless) =
      (checkFrom accepts opened closed tokens).mapError FormatError.caseless := by
  induction tokens generalizing opened closed with
  | nil =>
    -- At the end the counts of parentheses are compared, which are the same.
    simp only [List.map_nil, checkFrom]
    split
    · rfl
    · rfl
  | cons token rest ih =>
    have rule := broken?_caseless same opened closed rest.head? token
    rw [List.map_cons]
    rw [← List.head?_map] at rule
    cases broken : token.broken? accepts opened closed rest.head? with
    | some error =>
      -- The rule is the verdict on both runs.
      rw [broken, Option.map_some] at rule
      rw [checkFrom_broken broken, checkFrom_broken rule]
      rfl
    | none =>
      -- Both runs go on with the same count of parentheses.
      rw [broken, Option.map_none] at rule
      rw [checkFrom_step broken, checkFrom_step rule]
      cases token <;> exact ih _ _

/-- A token made caseless is an operator if it was one before. -/
theorem isOperator_caseless (token : Token ν) : token.caseless.isOperator = token.isOperator := by
  cases token <;> rfl

/-- A token made caseless is invalid if it was so before. -/
theorem invalid?_caseless (token : Token ν) :
    token.caseless.invalid? = token.invalid?.map Text.caseless := by
  cases token <;> rfl

/-- Tokens made caseless pass the check or break the rule that they broke before. -/
theorem check_caseless (same : ∀ name, accepts (Text.caseless name) = accepts name)
    (tokens : List (Token ν)) :
    check accepts (tokens.map caseless) =
      (check accepts tokens).mapError FormatError.caseless := by
  have invalid : (tokens.map caseless).findSome? invalid? =
      (tokens.findSome? invalid?).map Text.caseless := by
    -- The first invalid token is where it was.
    rw [List.findSome?_map, List.map_findSome?]
    exact congrArg (tokens.findSome? ·) (funext invalid?_caseless)
  unfold check
  rw [invalid, List.head?_map, List.getLast?_map, checkFrom_caseless same]
  -- The rules for the whole run come first, and they ask for the kinds of tokens.
  cases tokens.head? with
  | none => rfl
  | some first =>
    cases tokens.getLast? with
    | none => rfl
    | some last =>
      cases tokens.findSome? invalid? with
      | some text => rfl
      | none =>
        simp only [Option.map_some, Option.map_none, isOperator_caseless,
          apply_ite (Except.mapError FormatError.caseless)]
        rfl

end Token

namespace Formula

variable {naming : Naming}

/-- Whether a variable is accepted does not depend on its case if the naming ignores it. -/
theorem acceptsVariable_caseless (ignores : naming.IgnoresCase) (name : String) :
    acceptsVariable naming (Text.caseless name) = acceptsVariable naming name := by
  rw [acceptsVariable, acceptsVariable, ignores name]

/-- Tokens without an invalid one become equal once their variables are normalized. -/
theorem map_mapReference_caseless (ignores : naming.IgnoresCase) {tokens : List (Token Double)}
    (valid : ∀ text, Token.invalid text ∉ tokens) :
    (tokens.map Token.caseless).map (Token.mapReference naming.normalize) =
      tokens.map (Token.mapReference naming.normalize) := by
  -- Only variables and invalid tokens have a spelling, and the variables are normalized.
  rw [List.map_map]
  apply List.map_congr_left
  intro token member
  cases token with
  | reference name => exact congrArg Token.reference (ignores name)
  | invalid text => exact absurd member (valid text)
  | _ => rfl

/-- A text made caseless is the same formula, or it breaks the same rule. -/
theorem ofText_caseless (ignores : naming.IgnoresCase) (text : String) :
    ofText naming (Text.caseless text) = (ofText naming text).mapError FormatError.caseless := by
  -- The check comes first, and it reaches the same verdict up to the spelling.
  have verdict := Token.check_caseless (acceptsVariable_caseless ignores) (Token.ofText text)
  rw [← Token.ofText_caseless] at verdict
  cases checked : Token.check (acceptsVariable naming) (Token.ofText text) with
  | error error =>
    rw [checked] at verdict
    simp only [ofText, checked, verdict, Except.mapError, Bind.bind, Except.bind]
  | ok _ =>
    -- An accepted text has no invalid token, and the names of its variables lose their case.
    obtain ⟨-, -, valid, -⟩ := Token.check_eq_ok_iff.mp checked
    rw [checked] at verdict
    have before : ofText naming text = .ok ⟨(Token.ofText text).map _⟩ :=
      ofText_eq_ok.mpr ⟨checked, rfl⟩
    rw [before]
    refine ofText_eq_ok.mpr ⟨verdict, ?_⟩
    rw [Token.ofText_caseless, map_mapReference_caseless ignores valid]

end Formula

end Worksheet
