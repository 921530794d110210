import Worksheet.Proofs.Formula.Pieces

/-!
Blanks behind a formula make no difference to it, and there is nothing in an accepted one but blanks
and the characters of lexemes.
-/

namespace Worksheet

variable {c : Char} {cs rest run gap : List Char} {l : Lexeme} {piece : Piece} {pieces : List Piece}
  {naming : Naming} {text : String}

/-- A lexeme at the head of a text ends before the blanks behind it. -/
theorem Lexeme.prefix_of_append (formed : l.WellFormed) (blank : ∀ c ∈ gap, Text.isBlank c = true)
    (heads : l.spelling <+: cs ++ gap) : l.spelling <+: cs := by
  rcases List.prefix_or_prefix_of_prefix heads (List.prefix_append cs gap) with inside | beyond
  · exact inside
  · obtain ⟨behind, spelled⟩ := beyond
    rw [← spelled, List.prefix_append_right_inj] at heads
    -- What would stand among the blanks is no blank, and so it is nothing.
    have nothing : behind = [] := by
      refine List.eq_nil_iff_forall_not_mem.mpr fun c member => ?_
      have solid := isBlank_of_mem_spelling formed (spelled ▸ List.mem_append_right cs member)
      rw [blank c (heads.subset member)] at solid
      cases solid
    have same : cs = l.spelling := by rw [← spelled, nothing, List.append_nil]
    exact same ▸ List.prefix_rfl

namespace Piece

/-- What begins a text begins it with blanks behind it, too, and nothing else does. -/
theorem begins_append (blank : ∀ c ∈ gap, Text.isBlank c = true) (present : cs ≠ []) :
    Begins (cs ++ gap) ↔ Begins cs := by
  -- The first character decides about blanks, and a lexeme ends before the blanks that were added.
  obtain ⟨c, rest, rfl⟩ := List.exists_cons_of_ne_nil present
  refine or_congr Iff.rfl (exists_congr fun l => and_congr_right fun formed => ?_)
  exact ⟨Lexeme.prefix_of_append formed blank, fun heads => heads.trans (List.prefix_append _ gap)⟩

/-- A piece of a text fits there with blanks behind it, too, unless it is one of blanks itself. -/
theorem FitsBefore.append (fits : piece.FitsBefore rest) (blank : ∀ c ∈ gap, Text.isBlank c = true)
    (solid : rest = [] → ∀ run, piece ≠ blanks run) : piece.FitsBefore (rest ++ gap) := by
  cases piece with
  | blanks run =>
    -- Blanks are followed by something, which is the same with more blanks at the end.
    obtain ⟨c, tail, rfl⟩ := List.exists_cons_of_ne_nil fun none => solid none run rfl
    exact ⟨fits.1, fits.2.1, Text.stops_cons.mpr (Text.stops_cons.mp fits.2.2)⟩
  | lexeme l =>
    -- No longer lexeme reaches into the blanks.
    refine ⟨fits.1, fun other formed heads => fits.2 other formed ?_⟩
    rw [← List.append_assoc] at heads
    exact Lexeme.prefix_of_append formed blank heads
  | stray run =>
    refine ⟨fits.1, fun behind suffix present => ?_, ?_⟩
    · -- Nothing begins within the run because of them.
      rw [← List.append_assoc, begins_append blank (by simp [present])]
      exact fits.2.1 behind suffix present
    · cases rest with
      | nil =>
        -- The first of the blanks begins what is behind the run.
        cases gap with
        | nil => exact Or.inl rfl
        | cons c others => exact Or.inr (Or.inl ⟨c, rfl, blank c List.mem_cons_self⟩)
      | cons c tail =>
        have begins := fits.2.2.resolve_left (by simp)
        exact Or.inr ((begins_append blank (by simp)).mpr begins)

/-- With blanks behind it, a text has the same tokens. -/
theorem Splits.exists_append (splits : Splits cs pieces) (blank : ∀ c ∈ gap, Text.isBlank c = true)
    (present : gap ≠ []) :
    ∃ more, Splits (cs ++ gap) more ∧ more.filterMap token? = pieces.filterMap token? := by
  induction splits with
  | nil =>
    -- Behind an empty text the blanks are a piece of their own.
    have whole : Splits ((blanks gap).spelling ++ []) [blanks gap] :=
      .cons ⟨present, blank, Text.stops_nil⟩ .nil
    rw [List.append_nil] at whole
    exact ⟨_, whole, rfl⟩
  | @cons piece rest pieces fits others ih =>
    by_cases merged : rest = [] ∧ ∃ run, piece = blanks run
    · -- The blanks at the end are one piece with those behind them.
      obtain ⟨rfl, run, rfl⟩ := merged
      have whole : Splits ((blanks (run ++ gap)).spelling ++ []) [blanks (run ++ gap)] :=
        .cons ⟨by simp [present], List.forall_mem_append.mpr ⟨fits.2.1, blank⟩, Text.stops_nil⟩ .nil
      rw [List.append_nil] at whole
      rw [splits_iff.mp others, ofChars, List.append_nil]
      exact ⟨_, whole, rfl⟩
    · -- Any other piece stays as it is in front of the longer rest.
      obtain ⟨more, splits, same⟩ := ih
      refine ⟨piece :: more, ?_, by rw [List.filterMap_cons, List.filterMap_cons, same]⟩
      rw [List.append_assoc]
      exact .cons (fits.append blank fun none run same => merged ⟨none, run, same⟩) splits

/-- Without an invalid token among those of its pieces all characters of a text are blanks, go on with
words or are signs. -/
theorem Splits.kind_of_mem (splits : Splits cs pieces)
    (valid : ∀ text, .invalid text ∉ pieces.filterMap meaning?) (member : c ∈ cs) :
    Text.isBlank c = true ∨ goesOn c = true ∨ c ∈ ['(', ')', '+', '-', '*', '/'] := by
  -- A character stands in the first piece or in a later one.
  induction splits with
  | nil => cases member
  | @cons piece rest pieces fits _ ih =>
    rcases List.mem_append.mp member with inside | later
    · -- In an accepted text a piece is made of blanks or is a lexeme.
      rcases cases_of_valid valid List.mem_cons_self with ⟨run, rfl⟩ | ⟨l, token, rfl, -⟩
      · exact Or.inl (fits.2.1 c inside)
      · exact Or.inr (Lexeme.kind_of_mem_spelling fits.1 inside)
    · -- The pieces behind the first mean nothing invalid either.
      have within := (List.sublist_cons_self piece pieces).filterMap meaning?
      exact ih (fun text inner => valid text (within.subset inner)) later

end Piece

/-- Blanks behind a text add no token. -/
theorem Token.ofText_append (cs : List Char) (blank : ∀ c ∈ gap, Text.isBlank c = true) :
    ofText (String.ofList (cs ++ gap)) = ofText (String.ofList cs) := by
  -- With blanks added, the pieces are those of the text and at most one of blanks, which means
  -- nothing.
  by_cases present : gap = []
  · rw [present, List.append_nil]
  · have splits : Piece.Splits cs (Piece.ofChars cs) := Piece.splits_iff.mpr rfl
    obtain ⟨more, whole, same⟩ := splits.exists_append blank present
    rw [ofText, ofText, String.toList_ofList, String.toList_ofList, ← same,
      Piece.splits_iff.mp whole]

/-- All characters of an accepted formula are blanks, go on with words or are signs. -/
theorem Formula.kind_of_mem {f : Formula} (read : ofText naming text = .ok f)
    (member : c ∈ text.toList) :
    Text.isBlank c = true ∨ goesOn c = true ∨ c ∈ ['(', ')', '+', '-', '*', '/'] := by
  obtain ⟨checked, -⟩ := ofText_eq_ok.mp read
  -- The check lets no invalid token through.
  obtain ⟨-, -, valid, -⟩ := Token.check_eq_ok_iff.mp checked
  have splits : Piece.Splits text.toList (Piece.ofChars text.toList) := Piece.splits_iff.mpr rfl
  rw [Token.ofText, splits.tokens_eq] at valid
  exact splits.kind_of_mem valid member

end Worksheet
