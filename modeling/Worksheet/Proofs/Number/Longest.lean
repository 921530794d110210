import Mathlib.Data.List.TakeWhile
import Worksheet.Proofs.Number.Literal

/-!
The literal that is split from the head of a text is spelled as literals are, and no literal that the
text begins with is longer.
-/

namespace Worksheet

variable {cs rest whole digits : List Char} {fraction : Option (List Char)} {e : Exponent}
  {l : Literal}

namespace Exponent

/-- What is split off as a sign is one. -/
theorem signed_of_scanSign (cs : List Char) : ∀ c ∈ (scanSign cs).1, c = '+' ∨ c = '-' := by
  -- The scanner takes no other character.
  unfold scanSign
  split <;> simp

/-- What is split off as a power of ten is one. -/
theorem wellFormed_of_scan (scanned : (scan cs).1 = some e) : e.WellFormed := by
  -- An exponent is only taken with its mark and at least one digit.
  cases cs with
  | nil => cases scanned
  | cons marker behind =>
    simp only [scan] at scanned
    split at scanned
    · rename_i complete
      cases scanned
      exact ⟨complete.1, signed_of_scanSign behind, complete.2, fun c => List.mem_takeWhile_imp⟩
    · cases scanned

end Exponent

namespace Literal

/-- What is split off as the digits and the point of a literal has digits on one side of it. -/
theorem wellFormed_of_scanDigits (scanned : scanDigits cs = some ((whole, fraction), rest)) :
    WellFormed ⟨whole, fraction, none⟩ := by
  unfold scanDigits at scanned
  split at scanned
  · -- With a point, digits are missing on one side at most.
    split at scanned
    · cases scanned
    · rename_i present
      cases scanned
      refine ⟨fun c => List.mem_takeWhile_imp, ?_, not_and_or.mp present, by simp⟩
      rintro digits ⟨⟩
      exact fun c => List.mem_takeWhile_imp
  · split at scanned
    · cases scanned
    · -- Without a point there are digits before where it would be.
      rename_i present
      cases scanned
      exact ⟨fun c => List.mem_takeWhile_imp, by simp, Or.inl present, by simp⟩

/-- What is split off as a literal is one. -/
theorem wellFormed_of_scan (scanned : scan cs = some (l, rest)) : l.WellFormed := by
  -- The digits and the exponent are well-formed each on their own.
  rw [scan_eq] at scanned
  obtain ⟨⟨⟨whole, fraction⟩, behind⟩, digits, same⟩ := Option.map_eq_some_iff.mp scanned
  rw [Prod.mk.injEq] at same
  obtain ⟨numeric, decimal, present, -⟩ := wellFormed_of_scanDigits digits
  rw [← same.1]
  exact ⟨numeric, decimal, present, fun e => Exponent.wellFormed_of_scan⟩

/-- Behind its digits and its point a literal has the power of ten that follows them. -/
theorem scan_of_scanDigits (scanned : scanDigits cs = some ((whole, fraction), rest)) :
    scan cs = some (⟨whole, fraction, (Exponent.scan rest).1⟩, (Exponent.scan rest).2) := by
  rw [scan_eq, scanned, Option.map_some]

/-- Digits at the head of a text are split off together with those that follow them. -/
theorem exists_scanDigits (numeric : ∀ c ∈ whole, c.isDigit = true) (present : whole ≠ [])
    (rest : List Char) : ∃ others fraction behind,
      scanDigits (whole ++ rest) = some ((whole ++ others, fraction), behind) := by
  have nonempty : whole ++ rest.takeWhile Char.isDigit ≠ [] :=
    List.append_ne_nil_of_left_ne_nil present _
  unfold scanDigits
  rw [List.takeWhile_append_of_pos numeric, List.dropWhile_append_of_pos numeric]
  -- Whether a point follows or not, there are digits before it.
  split
  · rw [if_neg fun missing => nonempty missing.1]
    exact ⟨_, _, _, rfl⟩
  · rw [if_neg nonempty]
    exact ⟨_, _, _, rfl⟩

/-- A point among digits at the head of a text is split off together with the digits that follow. -/
theorem scanDigits_pointed (formed : l.WellFormed) (point : l.fraction = some digits)
    (rest : List Char) :
    scanDigits (l.whole ++ '.' :: digits ++ rest) =
      some ((l.whole, some (digits ++ rest.takeWhile Char.isDigit)),
        rest.dropWhile Char.isDigit) := by
  have numeric := formed.fraction digits point
  have atPoint : Text.Stops Char.isDigit ('.' :: (digits ++ rest)) :=
    Text.stops_cons.mpr (by decide)
  -- More digits behind the point do not leave the literal without any.
  have nonempty : ¬(l.whole = [] ∧ digits ++ rest.takeWhile Char.isDigit = []) := by
    rintro ⟨whole, fraction⟩
    rcases formed.nonempty with present | present
    · exact present whole
    · rw [point] at present
      exact present (List.append_eq_nil_iff.mp fraction).1
  -- The digits before the point stop there, and those behind it go on with what follows.
  simp only [List.append_assoc, List.cons_append, scanDigits,
    Text.takeWhile_append formed.whole atPoint, Text.dropWhile_append formed.whole atPoint,
    List.takeWhile_append_of_pos numeric, List.dropWhile_append_of_pos numeric]
  rw [if_neg nonempty]

/-- A literal at the head of a text is split off, perhaps together with more. -/
theorem exists_scan (formed : l.WellFormed) (rest : List Char) : ∃ other behind,
    scan (l.spelling ++ rest) = some (other, behind) ∧ l.spelling <+: other.spelling := by
  rw [spelling_eq, List.append_assoc]
  cases power : l.exponent with
  | some e =>
    -- The digits end at the marker, and only the power of ten may go on.
    have exponent := formed.exponent e power
    have scanned : scanDigits (l.whole ++ pointSpelling l.fraction ++ (e.spelling ++ rest)) =
        some ((l.whole, l.fraction), e.spelling ++ rest) :=
      scanDigits_marked formed exponent.marked
    refine ⟨_, _, scan_of_scanDigits scanned, ?_⟩
    rw [Exponent.scan_append exponent, spelling_eq, exponentSpelling, exponentSpelling,
      List.prefix_append_right_inj]
    exact ⟨rest.takeWhile Char.isDigit, by simp [Exponent.spelling]⟩
  | none =>
    rw [exponentSpelling, List.nil_append, List.append_nil]
    cases point : l.fraction with
    | some digits =>
      -- The point is where it is, and the digits behind it may go on.
      refine ⟨_, _, scan_of_scanDigits (scanDigits_pointed formed point rest), ?_⟩
      rw [spelling_eq, pointSpelling, pointSpelling, List.append_assoc,
        List.prefix_append_right_inj, List.cons_append, List.cons_prefix_cons, List.append_assoc]
      exact ⟨rfl, List.prefix_append _ _⟩
    | none =>
      -- Digits alone may go on in any way.
      have present : l.whole ≠ [] := by
        simpa [point] using formed.nonempty
      obtain ⟨others, fraction, behind, scanned⟩ := exists_scanDigits formed.whole present rest
      rw [pointSpelling, List.append_nil]
      refine ⟨_, _, scan_of_scanDigits scanned, ?_⟩
      rw [spelling_eq, List.append_assoc, List.append_assoc]
      exact List.prefix_append _ _

end Literal

/-- All characters of the text of a number are blanks, go on with words or are signs. -/
theorem Double.kind_of_mem {c : Char} {text : String} {value : Double}
    (read : read? text = some value) (member : c ∈ text.toList) :
    Text.isBlank c = true ∨ goesOn c = true ∨ c = '+' ∨ c = '-' := by
  -- The text is its trim with blanks around it.
  obtain ⟨front, back, before, behind, whole⟩ := Text.exists_trimBlanks text.toList
  rw [whole, List.mem_append, List.mem_append] at member
  rcases member with (first | inside) | last
  · exact Or.inl (before c first)
  · -- Between the blanks stand a sign and a literal.
    unfold read? at read
    have signed := Exponent.signed_of_scanSign (Text.trimBlanks text.toList)
    rw [← Exponent.scanSign_append_eq (Text.trimBlanks text.toList)] at inside
    split at read
    rename_i sign behind parts
    rw [parts] at signed inside
    split at read
    · rename_i l scanned
      rw [← Literal.spelling_append_eq scanned, List.append_nil, List.mem_append,
        Option.mem_toList] at inside
      rcases inside with sign | spelled
      · exact Or.inr (Or.inr (signed c sign))
      · exact Or.inr (Literal.goesOn_of_mem_spelling (Literal.wellFormed_of_scan scanned) spelled)
    · cases read
  · exact Or.inl (behind c last)

end Worksheet
