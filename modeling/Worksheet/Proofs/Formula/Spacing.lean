import Worksheet.Formula.Basic
import Worksheet.Proofs.Formula.Lexeme

/-!
Blanks and the spelling of literals do not matter: however lexemes are laid out, a text has their
tokens, and texts that differ in nothing else are read as one formula or refused for one reason.
-/

namespace Worksheet

namespace Lexeme

/-- The token that a lexeme means: a sign or a name itself, and a literal the number that its own
text is read as, if that is one. -/
def meaning? : Lexeme → Option (Token Double)
  | leftParen => some .leftParen
  | rightParen => some .rightParen
  | operator op => some (.operator op)
  | name spelling => some (.reference (String.ofList spelling))
  | literal l => (Double.read? (String.ofList l.spelling)).map .number

/-- Whether two lexemes are the same, or two literals of the same value. -/
inductive Alike : Lexeme → Lexeme → Prop
  | refl (l : Lexeme) : Alike l l
  | literal {a b : Literal} (value : a.value false = b.value false) : Alike (literal a) (literal b)

/-- Whether a lexeme is no literal that is too large for a number. -/
def Finite : Lexeme → Prop
  | literal l => (l.value false).isFinite = true
  | _ => True

variable {a b l : Lexeme}

/-- A literal that is not too large stands for its value. -/
theorem token_literal {l : Literal} (finite : (literal l).Finite) :
    (literal l).token = .number (l.value false) :=
  if_pos finite

/-- A lexeme stands for the token that it means. -/
theorem meaning?_eq (formed : l.WellFormed) (finite : l.Finite) : l.meaning? = some l.token := by
  cases l with
  | leftParen => rfl
  | rightParen => rfl
  | operator op => rfl
  | name spelling => rfl
  | literal l =>
    -- On its own the literal has no sign before it.
    have spelled : (String.ofList l.spelling).toList = (none : Option Char).toList ++ l.spelling :=
      String.toList_ofList
    have read := Double.read?_of_spelled formed (by simp) spelled finite
    rw [meaning?, read, token_literal finite]
    rfl

/-- Lexemes that are alike stand for one token. -/
theorem Alike.token_eq (alike : Alike a b) (finite : a.Finite) (otherFinite : b.Finite) :
    a.token = b.token := by
  -- Literals with one value are one token, whichever way they are spelled.
  cases alike with
  | refl => rfl
  | literal value => rw [token_literal finite, token_literal otherFinite, value]

/-- Lexemes that are alike one by one stand for one run of tokens. -/
theorem map_token_congr {first second : List Lexeme} (alike : List.Forall₂ Alike first second)
    (finite : ∀ l ∈ first, l.Finite) (otherFinite : ∀ l ∈ second, l.Finite) :
    first.map token = second.map token := by
  -- The two lists are gone through together.
  induction alike with
  | nil => rfl
  | cons head _ ih =>
    rw [List.forall_mem_cons] at finite otherFinite
    rw [List.map_cons, List.map_cons, head.token_eq finite.1 otherFinite.1,
      ih finite.2 otherFinite.2]

end Lexeme

/-- Lexemes with blanks before, between and behind them, which keep words apart, and without a
literal that is too large for a number. -/
structure Layout where
  lead : List Char
  spaced : Spaced
  blank : ∀ c ∈ lead, Text.isBlank c = true
  wellFormed : spaced.WellFormed
  finite : ∀ entry ∈ spaced, entry.1.Finite

namespace Layout

/-- The lexemes of a layout. -/
def lexemes (layout : Layout) : List Lexeme :=
  layout.spaced.map Prod.fst

/-- The text of a layout. -/
def text (layout : Layout) : String :=
  String.ofList (layout.lead ++ layout.spaced.text)

/-- No literal of a layout is too large for a number. -/
theorem finite_of_mem {l : Lexeme} (layout : Layout) (member : l ∈ layout.lexemes) : l.Finite := by
  -- Each lexeme of a layout stands there with the blanks behind it.
  obtain ⟨entry, inside, rfl⟩ := List.mem_map.mp member
  exact layout.finite entry inside

/-- The tokens of a layout's text are those of its lexemes. -/
theorem tokens_text (layout : Layout) :
    Token.ofText layout.text = layout.lexemes.map Lexeme.token := by
  -- The blanks before the first lexeme count for nothing.
  rw [Token.ofText, text, String.toList_ofList, Piece.tokens_append layout.blank,
    layout.wellFormed.tokens, lexemes, List.map_map]
  rfl

end Layout

/-- However lexemes are laid out, the tokens of the text are what they mean, one by one. So two texts
that differ only in blanks and in how literals of the same value are spelled are read as one formula,
or refused for one reason, whatever is done with names. -/
theorem Formula.layout_irrelevant :
    (∀ layout : Layout, (Token.ofText layout.text).map some = layout.lexemes.map Lexeme.meaning?) ∧
    ∀ layout other : Layout, List.Forall₂ Lexeme.Alike layout.lexemes other.lexemes →
      ∀ naming, Formula.ofText naming layout.text = Formula.ofText naming other.text := by
  constructor
  · intro layout
    rw [layout.tokens_text, List.map_map]
    refine List.map_congr_left fun l member => ?_
    obtain ⟨entry, inside, rfl⟩ := List.mem_map.mp member
    -- Each lexeme is spelled as such and not too large.
    have formed := layout.wellFormed.formed entry inside
    exact (Lexeme.meaning?_eq formed (layout.finite entry inside)).symm
  · intro layout other alike naming
    -- A formula is read from the tokens of its text alone.
    have tokens : Token.ofText layout.text = Token.ofText other.text := by
      rw [layout.tokens_text, other.tokens_text]
      exact Lexeme.map_token_congr alike (fun _ => layout.finite_of_mem) fun _ => other.finite_of_mem
    simp only [Formula.ofText, tokens]

/-- A literal with a power of ten behind a wide space is read like one with a point. -/
theorem Formula.layout_irrelevant_exponent :
    ∃ layout other : Layout, layout.text = "\u20031e1+ x" ∧ other.text = "10.0 + x\n" ∧
      List.Forall₂ Lexeme.Alike layout.lexemes other.lexemes ∧
      Formula.ofText .plain layout.text = Formula.ofText .plain other.text := by
  -- One literal is written with an exponent, the other one with a point.
  have power : Literal.WellFormed ⟨['1'], none, some ⟨'e', none, ['1']⟩⟩ := by
    refine ⟨by simp, by simp, by simp, ?_⟩
    rintro _ ⟨⟩
    exact ⟨Or.inl rfl, by simp, by simp, by simp⟩
  have point : Literal.WellFormed ⟨['1', '0'], some ['0'], none⟩ :=
    ⟨by simp, by simp, by simp, by simp⟩
  have named : isVariable "x" = true := by decide +kernel
  -- Both literals have the value ten.
  have ten : (Literal.value ⟨['1', '0'], some ['0'], none⟩ false).isFinite = true := by
    decide +kernel
  have same : Literal.value ⟨['1'], none, some ⟨'e', none, ['1']⟩⟩ false =
      Literal.value ⟨['1', '0'], some ['0'], none⟩ false := by
    decide +kernel
  let layout : Layout :=
    { lead := ['\u2003']
      spaced := [(.literal ⟨['1'], none, some ⟨'e', none, ['1']⟩⟩, []), (.operator .add, [' ']),
        (.name ['x'], [])]
      blank := List.forall_mem_singleton.mpr (by decide)
      wellFormed := ⟨by simp [Lexeme.WellFormed, power, named], by simp [Text.isBlank],
        by simp [Lexeme.isWord]⟩
      finite := by simp [Lexeme.Finite, same, ten] }
  let other : Layout :=
    { lead := []
      spaced := [(.literal ⟨['1', '0'], some ['0'], none⟩, [' ']), (.operator .add, [' ']),
        (.name ['x'], ['\n'])]
      blank := by simp
      wellFormed := ⟨by simp [Lexeme.WellFormed, point, named], by simp [Text.isBlank],
        by simp [Lexeme.isWord]⟩
      finite := by simp [Lexeme.Finite, ten] }
  -- The literals are alike by their value, and the other lexemes are the same.
  have alike : List.Forall₂ Lexeme.Alike layout.lexemes other.lexemes :=
    .cons (.literal same) (.cons (.refl _) (.cons (.refl _) .nil))
  exact ⟨layout, other, rfl, rfl, alike,
    Formula.layout_irrelevant.2 layout other alike .plain⟩

end Worksheet
