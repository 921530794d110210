import Worksheet.Proofs.Formula.Check
import Worksheet.Proofs.Formula.Spacing
import Worksheet.Proofs.Number.Longest
import Worksheet.Proofs.Steps

/-!
Every character of a formula's text belongs to one piece: a run of blanks, the longest lexeme, or a
run of characters that neither could begin at. There is but one way to split a text so.
-/

namespace Worksheet

open Text (Stops)

variable {c : Char} {cs rest run : List Char} {l other : Lexeme} {piece : Piece}
  {pieces : List Piece}

namespace Lexeme

/-- A lexeme that is split off is spelled as such, and nothing is lost. -/
theorem wellFormed_of_scan (scanned : scan cs = some (l, rest)) :
    l.WellFormed ∧ l.spelling ++ rest = cs := by
  unfold scan at scanned
  split at scanned
  · cases scanned
  · cases scanned
    exact ⟨trivial, rfl⟩
  · cases scanned
    exact ⟨trivial, rfl⟩
  · rename_i c tail _ _
    split at scanned
    · -- An operator is known by its sign.
      rename_i op signed
      cases scanned
      refine ⟨trivial, ?_⟩
      unfold Operator.ofSymbol? at signed
      split at signed <;> cases signed <;> rfl
    · split at scanned
      · -- A name begins as one and goes on with the run that was taken.
        rename_i starts
        cases scanned
        constructor
        · show isVariable (String.ofList _) = true
          rw [isVariable, String.toList_ofList]
          simp [starts]
        · simp [spelling]
      · -- What is left is a literal, whose own scanner loses nothing.
        obtain ⟨⟨value, behind⟩, literal, same⟩ := Option.map_eq_some_iff.mp scanned
        cases same
        exact ⟨Literal.wellFormed_of_scan literal, Literal.spelling_append_eq literal⟩

/-- A lexeme at the head of a text is split off, perhaps together with more. -/
theorem exists_scan (formed : l.WellFormed) (rest : List Char) : ∃ other behind,
    scan (l.spelling ++ rest) = some (other, behind) ∧ l.spelling <+: other.spelling := by
  cases l with
  | leftParen => exact ⟨_, _, rfl, List.prefix_rfl⟩
  | rightParen => exact ⟨_, _, rfl, List.prefix_rfl⟩
  | operator op => cases op <;> exact ⟨_, _, rfl, List.prefix_rfl⟩
  | name spelling =>
    obtain ⟨first, others, rfl, starts, follow⟩ := exists_of_name formed
    -- The name goes on as far as characters of names do.
    have scanned : scan (first :: (others ++ rest)) =
        some (name (first :: (others ++ rest).takeWhile isVariableChar),
          (others ++ rest).dropWhile isVariableChar) := by
      rw [scan_of_goesOn (goesOn_of_isVariableStart starts), if_pos starts]
    refine ⟨_, _, scanned, ?_⟩
    -- The name that was given is the beginning of it.
    rw [List.takeWhile_append_of_pos follow]
    exact List.prefix_append (first :: others) _
  | literal value =>
    obtain ⟨longest, behind, scanned, longer⟩ := Literal.exists_scan formed rest
    -- What begins a literal begins no name, and so the literal is looked for.
    obtain ⟨first, others, spelled, begins⟩ := Literal.exists_of_spelling formed
    obtain ⟨word, starts⟩ := goesOn_of_literal begins
    refine ⟨literal longest, behind, ?_, longer⟩
    simp only [spelling, spelled, List.cons_append] at scanned ⊢
    rw [scan_of_goesOn word, starts, scanned]
    rfl

/-- No lexeme at the head of a text is longer than the one that is split off. -/
theorem prefix_of_scan (scanned : scan cs = some (l, rest)) (formed : other.WellFormed)
    (heads : other.spelling <+: cs) : other.spelling <+: l.spelling := by
  -- Where a lexeme stands at the head, some longest one is scanned, and that is this one.
  obtain ⟨behind, rfl⟩ := heads
  obtain ⟨longest, after, again, longer⟩ := exists_scan formed behind
  cases scanned.symm.trans again
  exact longer

/-- A lexeme is split off exactly if the text begins with one. -/
theorem isSome_scan_iff :
    (scan cs).isSome = true ↔ ∃ l : Lexeme, l.WellFormed ∧ l.spelling <+: cs := by
  constructor
  · -- What is scanned stands at the head itself.
    intro found
    obtain ⟨⟨l, behind⟩, scanned⟩ := Option.isSome_iff_exists.mp found
    obtain ⟨formed, whole⟩ := wellFormed_of_scan scanned
    exact ⟨l, formed, behind, whole⟩
  · -- A lexeme at the head is not longer than what is scanned there.
    rintro ⟨l, formed, behind, rfl⟩
    obtain ⟨longest, after, scanned, -⟩ := exists_scan formed behind
    rw [scanned]
    rfl

/-- A lexeme is known by its spelling. -/
theorem eq_of_spelling (formed : l.WellFormed) (otherFormed : other.WellFormed)
    (same : l.spelling = other.spelling) : l = other := by
  -- Each of the two is what is scanned from the one spelling.
  have first := scan_spelling formed fun _ => Text.stops_nil
  have second := scan_spelling otherFormed fun _ => Text.stops_nil
  rw [same, second] at first
  cases first
  rfl

/-- A character of a lexeme could go on with a word, or it is a sign on its own. -/
theorem kind_of_mem_spelling (formed : l.WellFormed) (member : c ∈ l.spelling) :
    goesOn c = true ∨ c ∈ ['(', ')', '+', '-', '*', '/'] := by
  -- Signs are told from words, and only the exponent of a literal may hold a sign as well.
  cases l with
  | leftParen => exact Or.inr (by simp [List.mem_singleton.mp member])
  | rightParen => exact Or.inr (by simp [List.mem_singleton.mp member])
  | operator op =>
    have symbol : c = op.symbol := List.mem_singleton.mp member
    exact Or.inr (by cases op <;> simp [symbol, Operator.symbol])
  | name characters =>
    exact Or.inl (goesOn_of_mem formed (String.toList_ofList.symm ▸ member))
  | literal value =>
    rcases Literal.goesOn_of_mem_spelling formed member with inside | rfl | rfl
    · exact Or.inl inside
    · -- The exponent may have a sign of its own.
      exact Or.inr (by decide)
    · exact Or.inr (by decide)

/-- No character of a lexeme is blank. -/
theorem isBlank_of_mem_spelling (formed : l.WellFormed) (member : c ∈ l.spelling) :
    Text.isBlank c = false := by
  -- Neither a character that goes on as a word nor a sign is blank.
  have signs : ∀ c ∈ ['(', ')', '+', '-', '*', '/'], Text.isBlank c = false := by
    simp [Text.isBlank]
  rcases kind_of_mem_spelling formed member with inside | sign
  · exact isBlank_of_goesOn inside
  · exact signs c sign

/-- The token of a lexeme is what it means, or an invalid one with its spelling. -/
theorem token_eq (formed : l.WellFormed) :
    l.token = l.meaning?.getD (.invalid (String.ofList l.spelling)) := by
  -- A literal means the number that it spells, if that is finite.
  cases l with
  | literal value =>
    have spelled : (String.ofList value.spelling).toList =
        (none : Option Char).toList ++ value.spelling := String.toList_ofList
    rw [meaning?, Double.read?_spelled formed (by simp) spelled, token, spelling]
    simp only [reduceCtorEq, decide_false]
    split <;> rfl
  | _ => rfl

end Lexeme

namespace Piece

/-- Whether a blank or a lexeme begins at the head of a text. -/
def Begins (cs : List Char) : Prop :=
  (∃ c ∈ cs.head?, Text.isBlank c = true) ∨ ∃ l : Lexeme, l.WellFormed ∧ l.spelling <+: cs

/-- Whether a piece is what stands before the rest of a text: all the blanks there, the longest lexeme
there, or all characters up to one where a blank or a lexeme begins. -/
def FitsBefore (rest : List Char) : Piece → Prop
  | blanks run => run ≠ [] ∧ (∀ c ∈ run, Text.isBlank c = true) ∧ Stops Text.isBlank rest
  | lexeme l => l.WellFormed ∧ ∀ other : Lexeme, other.WellFormed →
      other.spelling <+: l.spelling ++ rest → other.spelling <+: l.spelling
  | stray run => run ≠ [] ∧ (∀ behind, behind <:+ run → behind ≠ [] → ¬Begins (behind ++ rest)) ∧
      (rest = [] ∨ Begins rest)

/-- Whether some pieces are those of a text, in order and without gaps. -/
inductive Splits : List Char → List Piece → Prop
  | nil : Splits [] []
  | cons {piece : Piece} {rest : List Char} {pieces : List Piece} (fits : piece.FitsBefore rest)
    (others : Splits rest pieces) : Splits (piece.spelling ++ rest) (piece :: pieces)

/-- A blank or a lexeme begins where one is found. -/
theorem begins_cons : Begins (c :: rest) ↔
    (Text.isBlank c || (Lexeme.scan (c :: rest)).isSome) = true := by
  -- A blank begins blanks, and what can be scanned begins a lexeme.
  rw [Bool.or_eq_true, Lexeme.isSome_scan_iff, Begins]
  simp

/-- Stray characters are all those up to where a blank or a lexeme begins. -/
theorem scanStray_spec (cs : List Char) :
    (scanStray cs).1 ++ (scanStray cs).2 = cs ∧
      (∀ behind, behind <:+ (scanStray cs).1 → behind ≠ [] → ¬Begins (behind ++ (scanStray cs).2)) ∧
      ((scanStray cs).2 = [] ∨ Begins (scanStray cs).2) := by
  -- The run grows from the right, one character at a time, until something begins.
  induction cs with
  | nil => simp [scanStray]
  | cons c rest ih =>
    obtain ⟨whole, bare, ends⟩ := ih
    simp only [scanStray]
    split
    · -- Something begins here, so that the run is empty.
      rename_i begins
      exact ⟨rfl, by simp, Or.inr (begins_cons.mpr begins)⟩
    · rename_i barren
      refine ⟨by simp [whole], ?_, ends⟩
      intro behind suffix present
      -- A part of the longer run is that run itself, or part of what was there before.
      rcases List.suffix_cons_iff.mp suffix with rfl | later
      · rw [List.cons_append, whole, begins_cons]
        exact barren
      · exact bare behind later present

/-- The piece that is split from a text fits there, and nothing is lost. -/
theorem scan_fits (c : Char) (rest : List Char) :
    (scan c rest).1.spelling ++ (scan c rest).2 = c :: rest ∧
      (scan c rest).1.FitsBefore (scan c rest).2 := by
  unfold scan
  split
  · -- Blanks are taken up to the first character that is none.
    rename_i blank
    refine ⟨by simp [spelling], by simp, ?_, Text.stops_dropWhile _ _⟩
    exact List.forall_mem_cons.mpr ⟨blank, fun c => List.mem_takeWhile_imp⟩
  · rename_i solid
    split
    · -- Any lexeme at the head is part of the one that is scanned.
      rename_i l after scanned
      obtain ⟨formed, whole⟩ := Lexeme.wellFormed_of_scan scanned
      refine ⟨whole, formed, fun other otherFormed heads => ?_⟩
      dsimp only at heads
      rw [whole] at heads
      exact Lexeme.prefix_of_scan scanned otherFormed heads
    · -- Neither the first character nor any behind it begins anything else.
      rename_i none
      obtain ⟨whole, bare, ends⟩ := scanStray_spec rest
      refine ⟨by simp [spelling, whole], by simp, ?_, ends⟩
      intro behind suffix present
      rcases List.suffix_cons_iff.mp suffix with rfl | later
      · rw [List.cons_append, whole, begins_cons]
        simp [solid, none]
      · exact bare behind later present

/-- A run at whose characters nothing begins is split off whole. -/
theorem scanStray_append
    (bare : ∀ behind, behind <:+ run → behind ≠ [] → ¬Begins (behind ++ rest))
    (ends : rest = [] ∨ Begins rest) : scanStray (run ++ rest) = (run, rest) := by
  -- Each character of the run is passed since nothing begins there.
  induction run with
  | nil =>
    -- The run is over, at the end of the text or where something begins.
    cases rest with
    | nil => rfl
    | cons c tail =>
      have begins := begins_cons.mp (ends.resolve_left (by simp))
      rw [List.nil_append, scanStray, if_pos begins]
  | cons c tail ih =>
    have barren := bare _ List.suffix_rfl (by simp)
    rw [List.cons_append, begins_cons] at barren
    have later := ih fun behind suffix => bare behind (suffix.trans (List.suffix_cons c tail))
    simp only [List.cons_append, scanStray]
    rw [if_neg barren, later]

/-- A piece that fits is the one that is split off. -/
theorem scan_of_fits (fits : piece.FitsBefore rest) :
    ∃ c tail, piece.spelling = c :: tail ∧ scan c (tail ++ rest) = (piece, rest) := by
  cases piece with
  | blanks run =>
    -- The run is taken whole, since no blank stands behind it.
    obtain ⟨present, blank, stops⟩ := fits
    obtain ⟨c, tail, rfl⟩ := List.exists_cons_of_ne_nil present
    rw [List.forall_mem_cons] at blank
    refine ⟨c, tail, rfl, ?_⟩
    rw [scan, if_pos blank.1, Text.takeWhile_append blank.2 stops,
      Text.dropWhile_append blank.2 stops]
  | lexeme l =>
    obtain ⟨formed, longest⟩ := fits
    obtain ⟨c, tail, spelled, solid, -⟩ := Lexeme.exists_of_spelling formed
    -- The lexeme that is split off is as long, and so it is the same.
    obtain ⟨other, behind, scanned, longer⟩ := Lexeme.exists_scan formed rest
    obtain ⟨otherFormed, whole⟩ := Lexeme.wellFormed_of_scan scanned
    have shorter := longest other otherFormed ⟨behind, whole⟩
    have same : l.spelling = other.spelling :=
      longer.eq_of_length_le shorter.length_le
    have l_eq := Lexeme.eq_of_spelling formed otherFormed same
    subst l_eq
    have behind_eq := List.append_cancel_left whole
    subst behind_eq
    refine ⟨c, tail, spelled, ?_⟩
    rw [spelled, List.cons_append] at scanned
    simp only [scan, solid, Bool.false_eq_true, if_false, scanned]
  | stray run =>
    -- Nothing begins at the first character, and the run behind it is taken up to where something
    -- does.
    obtain ⟨present, bare, ends⟩ := fits
    obtain ⟨c, tail, rfl⟩ := List.exists_cons_of_ne_nil present
    have barren := bare _ List.suffix_rfl (by simp)
    rw [List.cons_append, begins_cons, Bool.or_eq_true, not_or] at barren
    have later := scanStray_append
      (fun behind suffix => bare behind (suffix.trans (List.suffix_cons c tail))) ends
    refine ⟨c, tail, rfl, ?_⟩
    rw [scan, if_neg barren.1, Option.not_isSome_iff_eq_none.mp barren.2, later]

/-- A text is split in one way alone. -/
theorem splits_iff : Splits cs pieces ↔ pieces = ofChars cs := by
  constructor
  · -- What fits at the head is what is scanned there, so that each piece is the only one possible.
    intro splits
    induction splits with
    | nil => rw [ofChars]
    | cons fits _ ih =>
      obtain ⟨c, tail, spelled, scanned⟩ := scan_of_fits fits
      rw [spelled, List.cons_append, ofChars_cons, scanned, ih]
  · -- Conversely each piece that is scanned fits, by induction along the scanner.
    rintro rfl
    fun_induction ofChars cs with
    | case1 => exact .nil
    | case2 c rest next ih =>
      obtain ⟨whole, fits⟩ := scan_fits c rest
      rw [← whole]
      exact .cons fits ih

/-- No two runs of stray characters stand side by side. -/
theorem Splits.apart (splits : Splits cs pieces) :
    pieces.IsChain fun a b => ∀ run other, a = stray run → b ≠ stray other := by
  induction splits with
  | nil => exact .nil
  | cons fits others ih =>
    cases others with
    | nil => exact .singleton _
    | @cons next behind tail nextFits _ =>
      refine List.isChain_cons_cons.mpr ⟨?_, ih⟩
      rintro run other rfl rfl
      -- Something begins behind the first run, and nothing where the second one does.
      rcases fits.2.2 with nothing | begins
      · exact nextFits.1 (List.append_eq_nil_iff.mp nothing).1
      · exact nextFits.2.1 other List.suffix_rfl nextFits.1 begins

/-- The pieces of a text make up the text. -/
theorem Splits.spelling_eq (splits : Splits cs pieces) : pieces.flatMap spelling = cs := by
  -- Each piece is followed by the spelling of the others.
  induction splits with
  | nil => rfl
  | cons fits _ ih => rw [List.flatMap_cons, ih]

/-- The lexeme of a piece, which blanks and stray characters do not have. -/
def lexeme? : Piece → Option Lexeme
  | lexeme l => some l
  | _ => none

/-- The token that a piece means: that of its lexeme, and an invalid one with its own text where there
is none or the literal is too large. -/
def meaning? : Piece → Option (Token Double)
  | blanks _ => none
  | lexeme l => some (l.meaning?.getD (.invalid (String.ofList l.spelling)))
  | stray run => some (.invalid (String.ofList run))

/-- The tokens of the pieces of a text are what these mean. -/
theorem Splits.tokens_eq (splits : Splits cs pieces) :
    pieces.filterMap token? = pieces.filterMap meaning? := by
  -- Only the tokens of lexemes have to be compared, piece by piece.
  induction splits with
  | nil => rfl
  | @cons piece rest pieces fits _ ih =>
    have same : piece.token? = piece.meaning? := by
      cases piece with
      | lexeme l => exact congrArg some (Lexeme.token_eq fits.1)
      | _ => rfl
    simp only [List.filterMap_cons, same, ih]

/-- Without an invalid token among those they mean, pieces are blanks and lexemes with a meaning. -/
theorem cases_of_valid (valid : ∀ text, .invalid text ∉ pieces.filterMap meaning?)
    (member : piece ∈ pieces) :
    (∃ run, piece = blanks run) ∨ ∃ l token, piece = lexeme l ∧ l.meaning? = some token := by
  -- What a piece means is among what all pieces mean, and none of that is invalid.
  have meant : ∀ token, piece.meaning? = some token → token ∈ pieces.filterMap meaning? :=
    fun token means => List.mem_filterMap.mpr ⟨piece, member, means⟩
  cases piece with
  | blanks run => exact Or.inl ⟨run, rfl⟩
  | stray run => exact absurd (meant _ rfl) (valid _)
  | lexeme l =>
    cases means : l.meaning? with
    | some token => exact Or.inr ⟨l, token, rfl, means⟩
    | none =>
      refine absurd (meant (.invalid (String.ofList l.spelling)) ?_) (valid _)
      rw [meaning?, means]
      rfl

/-- Without an invalid token among them the tokens of pieces are those that the lexemes mean. -/
theorem map_some_meaning (valid : ∀ text, .invalid text ∉ pieces.filterMap meaning?) :
    (pieces.filterMap meaning?).map some = (pieces.filterMap lexeme?).map Lexeme.meaning? := by
  -- Each piece has one token in either list, or it is blank and has none.
  rw [List.map_filterMap, List.map_filterMap]
  refine List.filterMap_congr fun piece member => ?_
  rcases cases_of_valid valid member with ⟨run, rfl⟩ | ⟨l, token, rfl, means⟩
  · rfl
  · simp only [meaning?, lexeme?, means, Option.getD_some, Option.map_some]

/-- Without an invalid token among those of its pieces a text has no other characters than blanks and
those of lexemes. -/
theorem Splits.filter_eq (splits : Splits cs pieces)
    (valid : ∀ text, .invalid text ∉ pieces.filterMap meaning?) :
    cs.filter (fun c => !Text.isBlank c) = (pieces.filterMap lexeme?).flatMap Lexeme.spelling := by
  induction splits with
  | nil => rfl
  | @cons piece rest pieces fits _ ih =>
    have within := (List.sublist_cons_self piece pieces).filterMap meaning?
    have others := ih fun text later => valid text (within.subset later)
    rw [List.filter_append, others]
    rcases cases_of_valid valid List.mem_cons_self with ⟨run, rfl⟩ | ⟨l, token, rfl, -⟩
    · -- Nothing of the blanks is left.
      have none : run.filter (fun c => !Text.isBlank c) = [] :=
        List.filter_eq_nil_iff.mpr fun c member => by simp [fits.2.1 c member]
      rw [spelling, none, List.filterMap_cons_none rfl, List.nil_append]
    · -- All of the lexeme is left.
      have all : l.spelling.filter (fun c => !Text.isBlank c) = l.spelling :=
        List.filter_eq_self.mpr fun c member => by
          simp [Lexeme.isBlank_of_mem_spelling fits.1 member]
      have found : lexeme? (lexeme l) = some l := rfl
      rw [spelling, all, List.filterMap_cons_some found, List.flatMap_cons]

end Piece

/-- Every text is split in one way alone, in order and without gaps, into runs of blanks, lexemes that
are each the longest one where they begin, and runs of stray characters at none of which a blank or a
lexeme begins. Its tokens are what these pieces mean, and an accepted formula has no character that is
neither blank nor part of the lexeme of one of its tokens. -/
theorem Token.ofText_by_pieces (text : String) : ∃ pieces,
    (∀ other, Piece.Splits text.toList other ↔ other = pieces) ∧
    pieces.flatMap Piece.spelling = text.toList ∧
    (pieces.IsChain fun a b => ∀ run other, a = .stray run → b ≠ .stray other) ∧
    ofText text = pieces.filterMap Piece.meaning? ∧
    ∀ naming f, Formula.ofText naming text = .ok f →
      text.toList.filter (fun c => !Text.isBlank c) =
        (pieces.filterMap Piece.lexeme?).flatMap Lexeme.spelling ∧
      f.tokens.map some = (pieces.filterMap Piece.lexeme?).map fun l =>
        l.meaning?.map (mapReference naming.normalize) := by
  -- The pieces are those of the scanner, which are the only ones that split the text.
  have splits : Piece.Splits text.toList (Piece.ofChars text.toList) := Piece.splits_iff.mpr rfl
  have tokens : ofText text = (Piece.ofChars text.toList).filterMap Piece.meaning? :=
    splits.tokens_eq
  refine ⟨_, fun other => Piece.splits_iff, splits.spelling_eq, splits.apart, tokens, ?_⟩
  intro naming f read
  obtain ⟨checked, rfl⟩ := Formula.ofText_eq_ok.mp read
  -- The check lets no invalid token through.
  obtain ⟨-, -, valid, -⟩ := check_eq_ok_iff.mp checked
  rw [tokens] at valid ⊢
  refine ⟨splits.filter_eq valid, ?_⟩
  -- Without an invalid token each lexeme means one of the tokens.
  have meant := congrArg (List.map (Option.map (mapReference naming.normalize)))
    (Piece.map_some_meaning valid)
  rw [List.map_map, List.map_map] at meant
  rw [List.map_map]
  exact meant

/-- But for its wide blank, all of an accepted formula are lexemes, one of which ends in its point. -/
theorem Token.ofText_by_pieces_accepted : ∃ f, Formula.ofText .plain "(a\u2003+ 1.)" = .ok f ∧
    ∃ pieces, (∀ other, Piece.Splits "(a\u2003+ 1.)".toList other ↔ other = pieces) ∧
      (pieces.filterMap Piece.lexeme?).flatMap Lexeme.spelling = "(a+1.)".toList := by
  -- The text is accepted, and all that the split leaves out of it is blank.
  have accepted : (Formula.ofText .plain "(a\u2003+ 1.)").isOk = true := by decide +kernel
  obtain ⟨f, read⟩ := isOk_iff.mp accepted
  obtain ⟨pieces, splits, -, -, -, formula⟩ := ofText_by_pieces "(a\u2003+ 1.)"
  have solid : "(a\u2003+ 1.)".toList.filter (fun c => !Text.isBlank c) = "(a+1.)".toList := by
    decide
  exact ⟨f, read, pieces, splits, (formula .plain f read).1.symm.trans solid⟩

end Worksheet
