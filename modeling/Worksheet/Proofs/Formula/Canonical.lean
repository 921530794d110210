import Worksheet.Proofs.Formula.Lexeme
import Worksheet.Proofs.Number.ReadBack
import Worksheet.Proofs.Sheet.Contents

/-!
The canonical text of a formula, which has no blanks, is read as that formula again, and so two
formulas have one canonical text exactly if they have the same tokens.
-/

namespace Worksheet

namespace Token

variable {tokens : List (Token Double)} {token : Token Double} {accepts other : String → Bool}
  {opened closed : Nat}

/-- Whether a token is written as one lexeme: a number without a sign, and a legal variable. -/
def Plain : Token Double → Prop
  | number value => value.isFinite = true ∧ value.isNegative = false
  | reference name => isVariable name = true
  | invalid _ => False
  | _ => True

/-- The lexeme that a token is written as. -/
def lexeme : Token Double → Lexeme
  | leftParen => .leftParen
  | rightParen => .rightParen
  | operator op => .operator op
  | number value => .literal value.shortestDecimal.literal
  | reference name | invalid name => .name name.toList

/-- Whether a token is a number or a variable. -/
def isOperand : Token Double → Bool
  | number _ | reference _ => true
  | _ => false

/-- The lexeme of a token is spelled as such. -/
theorem Plain.wellFormed (plain : token.Plain) : token.lexeme.WellFormed := by
  cases token with
  | number value => exact value.shortestDecimal.wellFormed_literal
  | reference name =>
    -- A name is legal as a string and as the characters of one.
    have legal : isVariable name = true := plain
    rwa [← String.ofList_toList (s := name)] at legal
  | invalid text => exact plain.elim
  | _ => trivial

/-- A token is written as its lexeme is spelled. -/
theorem Plain.spelling (plain : token.Plain) : token.lexeme.spelling = token.text.toList := by
  -- Only a number has a text that has to be computed.
  cases token with
  | leftParen => rfl
  | rightParen => rfl
  | operator op => cases op <;> rfl
  | number value => exact (Double.toList_text_of_unsigned plain.1 plain.2).symm
  | reference name => rfl
  | invalid text => exact plain.elim

/-- A token is what its lexeme stands for. -/
theorem Plain.token_lexeme (plain : token.Plain) : token.lexeme.token = token := by
  cases token with
  | leftParen => rfl
  | rightParen => rfl
  | operator op => rfl
  | number value =>
    -- The shortest decimal rounds to the magnitude, and there is no sign to lose.
    have same : value.shortestDecimal.literal.value false = value := by
      rw [Decimal.value_literal, Double.magnitude_shortestDecimal plain.1, ← plain.2,
        Double.ofMagnitude_magnitude]
    simp only [lexeme, Lexeme.token, same]
    rw [if_pos plain.1]
  | reference name => simp [lexeme, Lexeme.token]
  | invalid text => exact plain.elim

/-- The lexeme of an operand is a word, and no other one is. -/
theorem Plain.isWord (plain : token.Plain) : token.lexeme.isWord = token.isOperand := by
  -- Names and numbers are both the words and the operands.
  cases token with
  | invalid text => exact plain.elim
  | _ => rfl

/-- A token is written without blanks. -/
theorem Plain.isBlank_of_mem_text {c : Char} (plain : token.Plain)
    (member : c ∈ token.text.toList) : Text.isBlank c = false := by
  -- Signs are looked at one by one, and what stands in a name or a number goes on as a word.
  cases token with
  | leftParen =>
    rw [List.mem_singleton.mp member]
    decide
  | rightParen =>
    rw [List.mem_singleton.mp member]
    decide
  | operator op =>
    cases op <;> rw [List.mem_singleton.mp member] <;> decide
  | number value => exact Double.isBlank_of_mem_text plain.1 member
  | reference name => exact isBlank_of_goesOn (Lexeme.goesOn_of_mem plain member)
  | invalid text => exact plain.elim

/-- Tokens that are written without blanks are read as they were if no operand stands directly before
another one. -/
theorem ofText_render (plain : ∀ token ∈ tokens, token.Plain)
    (apart : tokens.IsChain fun a b => a.isOperand = true → b.isOperand = false) :
    ofText (render tokens) = tokens := by
  -- The lexemes of the tokens stand side by side, with no blanks behind any of them.
  let spaced : Spaced := tokens.map fun token => (token.lexeme, [])
  have text : (render tokens).toList = spaced.text := by
    rw [render, String.toList_join, Spaced.text, List.flatMap_map, List.flatMap_map]
    refine List.flatMap_congr fun token member => ?_
    show token.text.toList = token.lexeme.spelling ++ []
    rw [List.append_nil, (plain token member).spelling]
  have formed : spaced.WellFormed := by
    refine ⟨?_, ?_, ?_⟩
    · intro entry member
      obtain ⟨token, inside, rfl⟩ := List.mem_map.mp member
      exact (plain token inside).wellFormed
    · intro entry member
      -- No blanks stand behind a token.
      obtain ⟨token, -, rfl⟩ := List.mem_map.mp member
      simp
    · -- The words are the operands, which have something between them.
      rw [List.isChain_map]
      refine apart.imp_of_mem_imp fun a b first second unjoined _ word => ?_
      rw [(plain a first).isWord] at word
      rw [(plain b second).isWord]
      exact unjoined word
  calc ofText (render tokens)
    _ = spaced.map fun entry => entry.1.token := by rw [ofText, text, formed.tokens]
    _ = tokens.map fun token => token.lexeme.token := List.map_map
    _ = tokens.map id := List.map_congr_left fun token member => (plain token member).token_lexeme
    _ = tokens := List.map_id tokens

/-- Behind an operand no other one is let through. -/
theorem apart_of_checkFrom (checked : checkFrom accepts opened closed tokens = .ok ()) :
    tokens.IsChain fun a b => a.isOperand = true → b.isOperand = false := by
  -- Neighbours are compared where the rule for the first of them was met.
  induction tokens generalizing opened closed with
  | nil => exact .nil
  | cons token rest ih =>
    obtain ⟨unbroken, passed⟩ := checkFrom_cons.mp checked
    cases rest with
    | nil => exact .singleton token
    | cons next tail =>
      refine List.isChain_cons_cons.mpr ⟨fun operand => ?_, ih passed⟩
      -- Only an operator or a closing parenthesis may stand there.
      have follows : mayFollowOperand (some next) = true := by
        by_contra barred
        cases token with
        | number value => simp [broken?, barred] at unbroken
        | reference name =>
          simp only [broken?] at unbroken
          split at unbroken
          · cases unbroken
          · rw [List.head?_cons, if_neg barred] at unbroken
            cases unbroken
        | _ => cases operand
      cases next with
      -- What may follow an operand is no operand itself.
      | number value => cases follows
      | reference name => cases follows
      | _ => rfl

/-- No rule looks at anything about a variable but whether it is accepted. -/
theorem checkFrom_of_accepted (checked : checkFrom accepts opened closed tokens = .ok ())
    (accepted : ∀ name, reference name ∈ tokens → other name = true) :
    checkFrom other opened closed tokens = .ok () := by
  -- Only the rule for variables asks which of them are accepted.
  induction tokens generalizing opened closed with
  | nil => simpa [checkFrom] using checked
  | cons token rest ih =>
    obtain ⟨unbroken, passed⟩ := checkFrom_cons.mp checked
    refine checkFrom_cons.mpr ⟨?_, ih passed fun name member => accepted name (by simp [member])⟩
    cases token with
    | reference name =>
      -- The variable is accepted, and what has to stand behind it is the same.
      have allowed := accepted name List.mem_cons_self
      simp only [broken?] at unbroken ⊢
      split at unbroken
      · cases unbroken
      · simpa [allowed] using unbroken
    | _ => exact unbroken

/-- A run that passes with some variables accepted passes whenever all its variables are. -/
theorem check_of_accepted (checked : check accepts tokens = .ok ())
    (accepted : ∀ name, reference name ∈ tokens → other name = true) :
    check other tokens = .ok () := by
  -- Which variables are accepted matters to the walk alone.
  obtain ⟨begins, ends, valid, passed⟩ := check_eq_ok_iff.mp checked
  exact check_eq_ok_iff.mpr ⟨begins, ends, valid, checkFrom_of_accepted passed accepted⟩

/-- The numbers among the tokens of a text have no sign. -/
theorem isNegative_of_ofText {text : String} {value : Double}
    (member : number value ∈ ofText text) : value.isNegative = false := by
  obtain ⟨piece, -, spelled⟩ := List.mem_filterMap.mp member
  -- Only a literal stands for a number, and its sign would be an operator.
  cases piece with
  | blanks run => simp [Piece.token?] at spelled
  | stray run => simp [Piece.token?] at spelled
  | lexeme l =>
    cases l with
    | literal value =>
      simp only [Piece.token?, Lexeme.token, Option.some.injEq] at spelled
      split at spelled
      · -- The value of a literal is rounded from digits alone.
        cases spelled
        exact value.isNegative_value
      · cases spelled
    | _ => simp [Piece.token?, Lexeme.token] at spelled

end Token

namespace Formula

variable {naming other : Naming} {text : String} {f : Formula}

/-- The tokens of a formula are written as one lexeme each. -/
theorem plain_of_ofText (read : ofText naming text = .ok f) : ∀ token ∈ f.tokens, token.Plain := by
  obtain ⟨checked, rfl⟩ := ofText_eq_ok.mp read
  obtain ⟨-, -, valid, passed⟩ := Token.check_eq_ok_iff.mp checked
  intro token member
  obtain ⟨written, inside, rfl⟩ := List.mem_map.mp member
  -- The check has looked at the variables, and the numbers are those of literals.
  cases written with
  | number value => exact ⟨Token.finite_of_ofText inside, Token.isNegative_of_ofText inside⟩
  | reference name =>
    have accepted := Token.accepts_of_checkFrom passed name inside
    exact (Bool.and_eq_true_iff.mp accepted).1
  | invalid spelling => exact absurd inside (valid spelling)
  | _ => trivial

/-- The canonical text of a formula is read as the formula wherever its variables stand for
themselves and are allowed. -/
theorem ofText_canonical (read : ofText naming text = .ok f)
    (fixed : ∀ v ∈ f.references, other.normalize v = v ∧ other.accepts v = true) :
    ofText other f.canonical = .ok f := by
  -- Plain tokens that stand apart are read back from their own text.
  have plain := plain_of_ofText read
  have checked := check_of_ofText read
  obtain ⟨-, -, -, passed⟩ := Token.check_eq_ok_iff.mp checked
  have tokens : Token.ofText f.canonical = f.tokens :=
    Token.ofText_render plain (Token.apart_of_checkFrom passed)
  rw [ofText_eq_ok, tokens]
  constructor
  · -- The same tokens have passed the check before, if with other variables accepted.
    refine Token.check_of_accepted checked fun name member => ?_
    obtain ⟨same, allowed⟩ := fixed name (mem_references.mpr member)
    have legal : isVariable name = true := plain _ member
    rw [acceptsVariable, same, legal, allowed]
    rfl
  · -- No variable is spelled in another way.
    have unchanged : f.tokens.map (Token.mapReference other.normalize) = f.tokens := by
      refine (List.map_congr_left fun token member => ?_).trans (List.map_id f.tokens)
      cases token with
      | reference name =>
        rw [Token.mapReference, (fixed name (mem_references.mpr member)).1]
        rfl
      | _ => rfl
    rw [unchanged]

/-- A canonical text has no blanks. -/
theorem isBlank_of_mem_canonical {c : Char} (read : ofText naming text = .ok f)
    (member : c ∈ f.canonical.toList) : Text.isBlank c = false := by
  -- Each character of the canonical text comes from the text of one token.
  rw [canonical, Token.render, String.toList_join, List.flatMap_map] at member
  obtain ⟨token, inside, spelled⟩ := List.mem_flatMap.mp member
  exact (plain_of_ofText read token inside).isBlank_of_mem_text spelled

/-- Where all names stand for themselves, every canonical text is read as its formula. -/
theorem ofText_plain_canonical (read : ofText naming text = .ok f) :
    ofText .plain f.canonical = .ok f :=
  ofText_canonical read fun _ _ => ⟨rfl, rfl⟩

/-- A formula is its tokens. -/
theorem eq_of_tokens {g : Formula} (tokens : f.tokens = g.tokens) : f = g := by
  -- A formula is nothing but its tokens.
  cases f
  cases g
  cases tokens
  rfl

/-- The canonical text of a formula is read as one with the same tokens, and therefore with the same
canonical text, variables and values, and two formulas are the same exactly if their tokens are. -/
theorem canonical_reads_back :
    (∀ naming text f, ofText naming text = .ok f →
      ∃ again, ofText .plain f.canonical = .ok again ∧
        again.tokens = f.tokens ∧ again.canonical = f.canonical ∧
        again.references = f.references ∧
        ∀ lookup, again.evaluate lookup = f.evaluate lookup) ∧
    ∀ naming naming' text text' f g, ofText naming text = .ok f → ofText naming' text' = .ok g →
      (f.same g = true ↔ f.tokens = g.tokens) ∧ (f.same g = true → hash f = hash g) := by
  constructor
  · intro naming text f read
    exact ⟨f, ofText_plain_canonical read, rfl, rfl, rfl, fun _ => rfl⟩
  · -- Formulas with one canonical text are one formula, with its tokens and its hash.
    intro naming naming' text text' f g first second
    have equal : f.same g = true ↔ f = g := by
      rw [same, beq_iff_eq]
      constructor
      · -- One text is read as both formulas.
        intro shared
        have again := ofText_plain_canonical second
        rw [← shared, ofText_plain_canonical first] at again
        exact Except.ok.inj again
      · rintro rfl
        rfl
    refine ⟨?_, fun same => ?_⟩
    · rw [equal]
      exact ⟨congrArg tokens, eq_of_tokens⟩
    · rw [equal.mp same]

/-- A formula in small letters and with blanks is read again from its canonical text, and it is the
same as one in capitals. -/
theorem canonical_reads_back_upper :
    ∃ f g, ofText NameCase.upper.naming "3.50 + 2 * e5" = .ok f ∧
      ofText .plain "3.5+2*E5" = .ok g ∧ f.canonical = "3.5+2*E5" ∧
      ofText .plain "3.5+2*E5" = .ok f ∧ f.same g = true ∧ f.tokens = g.tokens ∧
      hash f = hash g := by
  -- A text whose formula is written as this one is read as some formula.
  have reading : ∀ naming text, (ofText naming text).toOption.map canonical = some "3.5+2*E5" →
      ∃ f, ofText naming text = .ok f ∧ f.canonical = "3.5+2*E5" := by
    intro naming text shown
    cases read : ofText naming text with
    | error error =>
      rw [read] at shown
      cases shown
    | ok f =>
      rw [read] at shown
      exact ⟨f, rfl, Option.some.inj shown⟩
  -- Two texts under two namings share the canonical text, so that they are the same formula.
  obtain ⟨f, first, shownFirst⟩ :=
    reading NameCase.upper.naming "3.50 + 2 * e5" (by decide +kernel)
  obtain ⟨g, second, shownSecond⟩ := reading .plain "3.5+2*E5" (by decide +kernel)
  obtain ⟨again, read, tokens, -⟩ := canonical_reads_back.1 _ _ f first
  -- Formulas are the same if they are written alike.
  have shared : f.same g = true := by
    rw [same, shownFirst, shownSecond]
    rfl
  obtain ⟨equal, hashed⟩ := canonical_reads_back.2 _ _ _ _ f g first second
  rw [shownFirst, eq_of_tokens tokens] at read
  exact ⟨f, g, first, second, shownFirst, read, shared, equal.mp shared, hashed shared⟩

end Formula

end Worksheet
