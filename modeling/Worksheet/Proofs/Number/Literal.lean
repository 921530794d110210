import Worksheet.Number.Literal
import Worksheet.Proofs.Naming
import Worksheet.Proofs.Text.Runs

/-!
A literal is split whole from the head of a text unless what follows it could be a part of it, nothing
is lost in the split, and without a sign before it its number is not negative.
-/

namespace Worksheet

open Text (Stops)

variable {c : Char} {cs rest digits whole : List Char} {fraction : Option (List Char)} {e : Exponent}
  {l : Literal}

/-- Whether a power of ten has its marker, at most a sign, and digits. -/
structure Exponent.WellFormed (e : Exponent) : Prop where
  marked : e.marker = 'e' ∨ e.marker = 'E'
  signed : ∀ sign ∈ e.sign, sign = '+' ∨ sign = '-'
  nonempty : e.digits ≠ []
  numeric : ∀ c ∈ e.digits, c.isDigit = true

/-- Whether a literal has digits on at least one side of its point and perhaps a power of ten. -/
structure Literal.WellFormed (l : Literal) : Prop where
  whole : ∀ c ∈ l.whole, c.isDigit = true
  fraction : ∀ digits ∈ l.fraction, ∀ c ∈ digits, c.isDigit = true
  nonempty : l.whole ≠ [] ∨ l.fraction.getD [] ≠ []
  exponent : ∀ e ∈ l.exponent, e.WellFormed

/-- Whether a character could go on with a name or a literal. -/
def goesOn (c : Char) : Bool :=
  isVariableChar c || c = '.'

/-- No digit is a sign, a point or the marker of a power of ten. -/
theorem ne_of_isDigit (digit : c.isDigit = true) :
    c ≠ '+' ∧ c ≠ '-' ∧ c ≠ '.' ∧ c ≠ 'e' ∧ c ≠ 'E' := by
  refine ⟨?_, ?_, ?_, ?_, ?_⟩ <;> rintro rfl <;> exact absurd digit (by decide)

/-- A digit could go on with a name or a literal. -/
theorem goesOn_of_isDigit (digit : c.isDigit = true) : goesOn c = true := by
  simp [goesOn, isVariableChar, Char.isAlphanum, digit]

/-- No character of a name or a literal is blank. -/
theorem isBlank_of_goesOn (inside : goesOn c = true) : Text.isBlank c = false := by
  rcases Bool.or_eq_true_iff.mp inside with name | point
  · -- Names are of ASCII, whose characters are gone through.
    have ascii := @Text.LetterCase.ascii c
      (fun c => isVariableChar c = true → Text.isBlank c = false) (by decide)
    exact ascii (ascii_of_isVariableChar name) name
  · rw [of_decide_eq_true point]
    decide

/-- Where no name and no literal goes on, no digits do. -/
theorem stops_isDigit (stops : Stops goesOn rest) : Stops Char.isDigit rest := by
  -- A digit would go on as a word.
  intro c first
  have behind := stops c first
  rw [Bool.eq_false_iff] at behind ⊢
  exact fun digit => behind (goesOn_of_isDigit digit)

namespace Exponent

/-- A sign is split off without a loss. -/
theorem scanSign_append_eq (cs : List Char) : (scanSign cs).1.toList ++ (scanSign cs).2 = cs := by
  -- Whichever sign is taken was the first character.
  unfold scanSign
  split <;> rfl

/-- Without a sign at its head a text is left as it is. -/
theorem scanSign_unsigned (plus : ∀ c ∈ rest.head?, c ≠ '+' ∧ c ≠ '-') :
    scanSign rest = (none, rest) := by
  -- The scanner looks for the two signs only.
  unfold scanSign
  split
  · exact absurd rfl (plus '+' rfl).1
  · exact absurd rfl (plus '-' rfl).2
  · rfl

/-- A sign is split off where one stands before what begins with none. -/
theorem scanSign_append {sign : Option Char} (signed : ∀ c ∈ sign, c = '+' ∨ c = '-')
    (unsigned : ∀ c ∈ rest.head?, c ≠ '+' ∧ c ≠ '-') :
    scanSign (sign.toList ++ rest) = (sign, rest) := by
  -- A sign is taken off, and behind it a second one would not be.
  cases sign with
  | none => exact scanSign_unsigned unsigned
  | some c =>
    rcases signed c rfl with rfl | rfl
    · rfl
    · rfl

/-- A power of ten is split from the head of a text together with all the digits that follow it. -/
theorem scan_append (formed : e.WellFormed) (rest : List Char) :
    scan (e.spelling ++ rest) =
      (some { e with digits := e.digits ++ rest.takeWhile Char.isDigit },
        rest.dropWhile Char.isDigit) := by
  -- The digits are not missing, and so none of what follows is taken for the sign.
  have unsigned : ∀ c ∈ (e.digits ++ rest).head?, c ≠ '+' ∧ c ≠ '-' := by
    obtain ⟨digit, others, digits⟩ := List.exists_cons_of_ne_nil formed.nonempty
    intro c head
    rw [digits, List.cons_append, List.head?_cons, Option.mem_some_iff] at head
    have kinds := ne_of_isDigit (formed.numeric c (by simp [digits, head]))
    exact ⟨kinds.1, kinds.2.1⟩
  have sign : scanSign (e.sign.toList ++ (e.digits ++ rest)) = (e.sign, e.digits ++ rest) :=
    scanSign_append formed.signed unsigned
  have present : e.digits ++ rest.takeWhile Char.isDigit ≠ [] :=
    List.append_ne_nil_of_left_ne_nil formed.nonempty _
  -- Behind the marker and the sign the digits are taken up to where they stop.
  simp only [spelling, List.cons_append, List.append_assoc, scan, sign,
    List.takeWhile_append_of_pos formed.numeric, List.dropWhile_append_of_pos formed.numeric]
  rw [if_pos ⟨formed.marked, present⟩]

/-- A power of ten is split whole from a text in which no digits follow it. -/
theorem scan_spelling (formed : e.WellFormed) (stops : Stops Char.isDigit rest) :
    scan (e.spelling ++ rest) = (some e, rest) := by
  rw [scan_append formed, stops.takeWhile, stops.dropWhile, List.append_nil]

/-- Nothing is split from a text that does not begin with the marker of a power of ten. -/
theorem scan_of_stops (stops : Stops goesOn rest) : scan rest = (none, rest) := by
  cases rest with
  | nil => rfl
  | cons c tail =>
    have unmarked : ¬(c = 'e' ∨ c = 'E') := by
      -- Both markers are letters.
      have behind := Text.stops_cons.mp stops
      rintro (rfl | rfl) <;> exact absurd behind (by decide)
    simp only [scan]
    rw [if_neg fun both => unmarked both.1]

end Exponent

namespace Literal

/-- The characters of the point of a literal and the digits behind it. -/
def pointSpelling : Option (List Char) → List Char
  | none => []
  | some digits => '.' :: digits

/-- The characters of a power of ten, if there is one. -/
def exponentSpelling : Option Exponent → List Char
  | none => []
  | some e => e.spelling

/-- A literal is spelled as its digits, its point and its power of ten. -/
theorem spelling_eq (l : Literal) :
    l.spelling = l.whole ++ pointSpelling l.fraction ++ exponentSpelling l.exponent := by
  -- A part that is missing has no spelling.
  unfold spelling pointSpelling exponentSpelling
  cases l.fraction <;> cases l.exponent <;> rfl

/-- A literal begins with a digit or with its point. -/
theorem exists_of_spelling (formed : l.WellFormed) :
    ∃ first others, l.spelling = first :: others ∧ (first.isDigit = true ∨ first = '.') := by
  rw [spelling_eq]
  cases whole : l.whole with
  | nil =>
    -- Without digits before it the point comes first.
    have digits := formed.nonempty
    cases point : l.fraction with
    | none => simp [whole, point] at digits
    | some digits => exact ⟨_, _, rfl, Or.inr rfl⟩
  | cons first others =>
    exact ⟨_, _, rfl, Or.inl (formed.whole first (by simp [whole]))⟩

/-- The characters of a literal could go on with one, but for the sign of a power of ten. -/
theorem goesOn_of_mem_spelling (formed : l.WellFormed) (member : c ∈ l.spelling) :
    goesOn c = true ∨ c = '+' ∨ c = '-' := by
  have digit : c.isDigit = true → goesOn c = true ∨ c = '+' ∨ c = '-' :=
    fun numeric => Or.inl (goesOn_of_isDigit numeric)
  -- The character stands in the whole part, behind the point or in the exponent.
  rw [spelling_eq, List.mem_append, List.mem_append] at member
  rcases member with (whole | point) | power
  · exact digit (formed.whole c whole)
  · -- The point itself is followed by digits.
    cases fraction : l.fraction with
    | none => simp [fraction, pointSpelling] at point
    | some digits =>
      rw [fraction, pointSpelling, List.mem_cons] at point
      rcases point with rfl | behind
      · decide
      · exact digit (formed.fraction digits fraction c behind)
  · cases exponent : l.exponent with
    | none => simp [exponent, exponentSpelling] at power
    | some e =>
      -- The exponent has its marker, perhaps a sign, and digits.
      have spelled := formed.exponent e exponent
      rw [exponent, exponentSpelling, Exponent.spelling, List.mem_cons, List.mem_append,
        Option.mem_toList] at power
      rcases power with marker | sign | behind
      · rcases spelled.marked with small | capital
        · rw [marker, small]
          decide
        · rw [marker, capital]
          decide
      · exact Or.inr (spelled.signed c sign)
      · exact digit (spelled.numeric c behind)

/-- No character of a literal is blank. -/
theorem isBlank_of_mem_spelling (formed : l.WellFormed) (member : c ∈ l.spelling) :
    Text.isBlank c = false := by
  -- Besides what goes on as a word a literal only holds the sign of its exponent.
  rcases goesOn_of_mem_spelling formed member with inside | rfl | rfl
  · exact isBlank_of_goesOn inside
  · decide
  · decide

/-- A literal is its digits and its point and then the power of ten behind them. -/
theorem scan_eq (cs : List Char) : scan cs = (scanDigits cs).map fun parts =>
    (⟨parts.1.1, parts.1.2, (Exponent.scan parts.2).1⟩, (Exponent.scan parts.2).2) :=
  rfl

/-- A power of ten is split off without a loss. -/
theorem exponentSpelling_scan (cs : List Char) :
    exponentSpelling (Exponent.scan cs).1 ++ (Exponent.scan cs).2 = cs := by
  cases cs with
  | nil => rfl
  | cons marker rest =>
    simp only [Exponent.scan]
    split
    · -- The digits go on where the sign ends, and what follows them is left.
      simp only [exponentSpelling, Exponent.spelling, List.cons_append, List.append_assoc,
        List.takeWhile_append_dropWhile, Exponent.scanSign_append_eq]
    · rfl

/-- The digits and the point of a literal are split off without a loss. -/
theorem scanDigits_append_eq (scanned : scanDigits cs = some ((whole, fraction), rest)) :
    whole ++ pointSpelling fraction ++ rest = cs := by
  -- The digits before the point and what is left behind them are the text.
  have whole_eq := List.takeWhile_append_dropWhile (p := Char.isDigit) (l := cs)
  unfold scanDigits at scanned
  split at scanned
  · -- The point was dropped from the rest, and is part of the spelling again.
    rename_i after pointed
    split at scanned
    · cases scanned
    · cases scanned
      rw [pointed] at whole_eq
      simp only [pointSpelling, List.append_assoc, List.cons_append,
        List.takeWhile_append_dropWhile]
      exact whole_eq
  · split at scanned
    · cases scanned
    · cases scanned
      simpa only [pointSpelling, List.append_nil] using whole_eq

/-- A literal is split off without a loss. -/
theorem spelling_append_eq (scanned : scan cs = some (l, rest)) : l.spelling ++ rest = cs := by
  -- The digits are split off first and then the exponent, each without loss.
  rw [scan_eq] at scanned
  obtain ⟨⟨⟨whole, fraction⟩, after⟩, digits, same⟩ := Option.map_eq_some_iff.mp scanned
  simp only [Prod.mk.injEq] at same
  rw [← same.1, ← same.2, spelling_eq, List.append_assoc, exponentSpelling_scan]
  exact scanDigits_append_eq digits

/-- The digits and the point of a literal are split from a text in which neither follows them. -/
theorem scanDigits_append (formed : l.WellFormed) (stops : Stops Char.isDigit rest)
    (pointless : ∀ c ∈ rest.head?, c ≠ '.') :
    scanDigits (l.whole ++ pointSpelling l.fraction ++ rest) =
      some ((l.whole, l.fraction), rest) := by
  cases point : l.fraction with
  | none =>
    -- Without a point there are digits before where it would be.
    have nonempty : l.whole ≠ [] := by
      rcases formed.nonempty with whole | fraction
      · exact whole
      · simp [point] at fraction
    simp only [pointSpelling, List.append_nil, scanDigits,
      Text.takeWhile_append formed.whole stops, Text.dropWhile_append formed.whole stops]
    split
    · exact absurd rfl (pointless '.' rfl)
    · rw [if_neg nonempty]
  | some digits =>
    have numeric := formed.fraction digits point
    have atPoint : Stops Char.isDigit ('.' :: (digits ++ rest)) := Text.stops_cons.mpr (by decide)
    have nonempty : ¬(l.whole = [] ∧ digits = []) := by
      rintro ⟨whole, fraction⟩
      rcases formed.nonempty with present | present
      · exact present whole
      · exact present (by rw [point, fraction]; rfl)
    -- The digits before the point stop there, and those behind it stop where the literal does.
    simp only [pointSpelling, List.append_assoc, List.cons_append, scanDigits,
      Text.takeWhile_append formed.whole atPoint, Text.dropWhile_append formed.whole atPoint,
      Text.takeWhile_append numeric stops, Text.dropWhile_append numeric stops]
    rw [if_neg nonempty]

/-- The marker of a power of ten ends the digits and the point of a literal. -/
theorem scanDigits_marked (formed : l.WellFormed) (marked : c = 'e' ∨ c = 'E') :
    scanDigits (l.whole ++ pointSpelling l.fraction ++ c :: rest) =
      some ((l.whole, l.fraction), c :: rest) := by
  -- Neither marker is a digit or a point.
  have marker : c.isDigit = false ∧ c ≠ '.' := by
    rcases marked with rfl | rfl
    · decide
    · decide
  exact scanDigits_append formed (Text.stops_cons.mpr marker.1) (by simpa using marker.2)

/-- A literal is split whole from a text in which nothing goes on with it. -/
theorem scan_spelling (formed : l.WellFormed) (stops : Stops goesOn rest) :
    scan (l.spelling ++ rest) = some (l, rest) := by
  rw [spelling_eq, List.append_assoc]
  unfold scan
  cases power : l.exponent with
  | none =>
    -- Nothing that follows could be a digit, a point or the marker of a power of ten.
    have pointless : ∀ c ∈ rest.head?, c ≠ '.' := by
      intro c first
      have behind := stops c first
      rintro rfl
      exact absurd behind (by decide)
    rw [exponentSpelling, List.nil_append, scanDigits_append formed (stops_isDigit stops) pointless,
      Option.map_some]
    simp only [Exponent.scan_of_stops stops]
    rw [← power]
  | some e =>
    -- The marker stops the digits, and behind it the exponent is scanned whole.
    have exponent := formed.exponent e power
    have digits : scanDigits (l.whole ++ pointSpelling l.fraction ++ (e.spelling ++ rest)) =
        some ((l.whole, l.fraction), e.spelling ++ rest) :=
      scanDigits_marked formed exponent.marked
    rw [exponentSpelling, digits, Option.map_some]
    simp only [Exponent.scan_spelling exponent (stops_isDigit stops)]
    rw [← power]

/-- No literal has a magnitude above that of the infinities. -/
theorem magnitude_le (digits : List Char) (scale : Int) :
    magnitude digits scale ≤ Double.infiniteMagnitude := by
  -- A scale out of bounds leads to one end or the other, and rounding goes beyond neither.
  unfold magnitude
  dsimp only
  split
  · exact Nat.zero_le _
  · split
    · exact Nat.le_refl _
    · split
      · exact Nat.zero_le _
      · exact Nat.min_le_left _ _

/-- A literal without a sign is not negative. -/
theorem isNegative_value (l : Literal) : (l.value false).isNegative = false := by
  have small : magnitude (l.whole ++ l.fraction.getD []) l.scale < Double.signWeight :=
    Nat.lt_of_le_of_lt (magnitude_le _ _) (by decide)
  unfold value
  generalize magnitude (l.whole ++ l.fraction.getD []) l.scale = size at small
  have weight : Double.signWeight = 9223372036854775808 := rfl
  -- The magnitude leaves the sign bit alone.
  simp only [Double.ofMagnitude, Double.isNegative, weight, Bool.false_eq_true, if_false,
    UInt64.toNat_ofNat', decide_eq_false_iff_not] at small ⊢
  omega

end Literal

/-- A text that is a literal, perhaps behind a sign, is read as its number unless that is too large. -/
theorem Double.read?_spelled {text : String} {sign : Option Char} (formed : l.WellFormed)
    (signs : ∀ c ∈ sign, c = '+' ∨ c = '-') (spelled : text.toList = sign.toList ++ l.spelling) :
    read? text = if (l.value (sign = some '-')).isFinite then some (l.value (sign = some '-'))
      else none := by
  -- Nothing is trimmed, the sign is split off, and the rest is the literal.
  have trimmed : Text.Trimmed (sign.toList ++ l.spelling) := by
    refine .of_forall fun c member => ?_
    rcases List.mem_append.mp member with signed | inside
    · rcases signs c (Option.mem_toList.mp signed) with rfl | rfl
      · decide
      · decide
    · exact Literal.isBlank_of_mem_spelling formed inside
  -- A literal begins with a digit or a point, and not with another sign.
  have signed : Exponent.scanSign (sign.toList ++ l.spelling) = (sign, l.spelling) := by
    apply Exponent.scanSign_append signs
    obtain ⟨first, others, begun, begins⟩ := Literal.exists_of_spelling formed
    intro c head
    rw [begun, List.head?_cons, Option.mem_some_iff] at head
    subst head
    rcases begins with digit | rfl
    · exact ⟨(ne_of_isDigit digit).1, (ne_of_isDigit digit).2.1⟩
    · decide
  -- Nothing stands behind the literal.
  have scanned : Literal.scan l.spelling = some (l, []) := by
    have whole := Literal.scan_spelling formed Text.stops_nil
    rwa [List.append_nil] at whole
  unfold read?
  rw [spelled, trimmed.trimBlanks, signed]
  dsimp only
  rw [scanned]

/-- A text is read as the number of a literal if it is that literal, perhaps behind a sign. -/
theorem Double.read?_of_spelled {text : String} {sign : Option Char} (formed : l.WellFormed)
    (signs : ∀ c ∈ sign, c = '+' ∨ c = '-') (spelled : text.toList = sign.toList ++ l.spelling)
    (finite : (l.value (sign = some '-')).isFinite = true) :
    read? text = some (l.value (sign = some '-')) := by
  rw [read?_spelled formed signs spelled, if_pos finite]

/-- Blanks around a text make no difference to the number that it is read as. -/
theorem Double.read?_trim (text : String) : read? (Text.trim text) = read? text := by
  -- Reading trims the text itself, and a text is trimmed once and for all.
  unfold read?
  rw [Text.trim, String.toList_ofList, (Text.trimmed_trimBlanks _).trimBlanks]

/-- A text is not read as a number if its first character begins none. -/
theorem Double.read?_eq_none {text : String} (begins : text.toList = c :: rest)
    (solid : Text.isBlank c = false) (unsigned : c ≠ '+' ∧ c ≠ '-') (digitless : c.isDigit = false)
    (pointless : c ≠ '.') : read? text = none := by
  -- Trimming leaves the first character alone, which is neither a sign nor part of a literal.
  obtain ⟨kept, -, -, -, trimmed⟩ := Text.exists_trimBlanks_cons solid rest
  have sign : Exponent.scanSign (c :: kept) = (none, c :: kept) :=
    Exponent.scanSign_unsigned (by simpa using unsigned)
  have scanned : Literal.scan (c :: kept) = none := by
    simp [Literal.scan, Literal.scanDigits, digitless, pointless]
  unfold read?
  rw [begins, trimmed, sign]
  dsimp only
  rw [scanned]

end Worksheet
