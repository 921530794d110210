import Worksheet.Json.Basic
import Worksheet.Proofs.Json.Quoted

/-! Texts that spell tokens whatever stands behind them, which is so for all that is put together from
marks, quoted strings and blanks. -/

namespace Worksheet.Json

variable {c : Char} {cs others : List Char} {token : Token} {tokens later : List Token}

/-- Whether a text is read as some tokens, before anything else that is read. -/
def Spells (cs : List Char) (tokens : List Token) : Prop :=
  ∀ done rest, tokensFrom done (cs ++ rest) = tokensFrom (tokens.reverse ++ done) rest

/-- An empty text spells nothing. -/
theorem Spells.nil : Spells [] [] :=
  fun _ _ => rfl

/-- Texts one behind the other spell the tokens of both. -/
theorem Spells.append (first : Spells cs tokens) (second : Spells others later) :
    Spells (cs ++ others) (tokens ++ later) := by
  -- The tokens of the first text are done when the second one is begun.
  intro done rest
  rw [List.append_assoc, first, second, List.reverse_append, List.append_assoc]

/-- A quoted string spells one token. -/
theorem Spells.quote (text : String) : Spells (quote text) [.string (some text)] :=
  fun done rest => tokensFrom_quote done text rest

/-- A blank spells nothing. -/
theorem Spells.space (spells : Spells cs tokens) (blank : isSpace c = true) :
    Spells (c :: cs) tokens := by
  -- A space is passed over between tokens.
  intro done rest
  rw [List.cons_append, tokensFrom, if_pos blank, spells]

/-- A mark spells its token. -/
theorem Spells.mark (spells : Spells cs tokens) (stands : punctuation? c = some token) :
    Spells (c :: cs) (token :: tokens) := by
  -- Marks are looked for behind blanks and quotes.
  have solid : ¬isSpace c = true := by
    intro blank
    simp only [isSpace, Bool.or_eq_true, decide_eq_true_eq] at blank
    rcases blank with ((rfl | rfl) | rfl) | rfl <;> cases stands
  have unquoted : c ≠ '"' := by
    rintro rfl
    cases stands
  intro done rest
  rw [List.cons_append, tokensFrom, if_neg solid, if_neg unquoted]
  simp only [stands]
  rw [spells, List.reverse_cons, List.append_assoc, List.singleton_append]

/-- A text of marks and blanks spells its marks. -/
theorem Spells.marks (plain : (cs.all fun c => isSpace c || (punctuation? c).isSome) = true) :
    Spells cs (cs.filterMap punctuation?) := by
  -- The characters are taken one by one, each a mark or a space.
  induction cs with
  | nil => exact .nil
  | cons c rest ih =>
    obtain ⟨first, others⟩ := Bool.and_eq_true_iff.mp plain
    have behind := ih others
    cases stands : punctuation? c with
    | none =>
      -- A character that is no mark is a blank.
      rw [List.filterMap_cons_none stands]
      refine behind.space ?_
      simpa [stands] using first
    | some token =>
      rw [List.filterMap_cons_some stands]
      exact behind.mark stands

/-- Texts with a separator between them spell their tokens with those of the separator between. -/
theorem Spells.intercalate {α : Type} {text : α → List Char} {meaning : α → List Token}
    (separator : Spells cs tokens) (items : List α)
    (each : ∀ item ∈ items, Spells (text item) (meaning item)) :
    Spells (cs.intercalate (items.map text)) (tokens.intercalate (items.map meaning)) := by
  induction items with
  | nil => exact .nil
  | cons item rest ih =>
    -- The separator stands behind an item only if another one follows.
    have first := each item List.mem_cons_self
    have behind := ih fun other member => each other (List.mem_cons_of_mem item member)
    cases rest with
    | nil => simpa using first
    | cons next tail =>
      rw [List.map_cons, List.map_cons, List.intercalate_cons_cons, List.append_assoc]
      exact first.append (separator.append behind)

/-- A text that spells some tokens is read as them. -/
theorem Spells.ofText (spells : Spells cs tokens) :
    Token.ofText (String.ofList cs) = some tokens := by
  -- Nothing is done before the text, and nothing stands behind it.
  have whole := spells [] []
  rw [List.append_nil, List.append_nil, tokensFrom] at whole
  rw [Token.ofText, String.toList_ofList, whole, List.reverse_reverse]

end Worksheet.Json
