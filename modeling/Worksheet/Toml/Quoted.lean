import Worksheet.Text.Hexadecimal

/-!
The strings of TOML text, which stand between quotation marks or apostrophes, three of them where
the string may span lines.
-/

namespace Worksheet.Toml

/-- Whether a character separates the parts of a line. -/
def isBlank (c : Char) : Bool :=
  c = ' ' || c = '\t'

/-- Whether a character may stand in a string or in a comment as it is. -/
def isPlain (c : Char) : Bool :=
  c = '\t' || (0x20 ≤ c.val && c.val ≠ 0x7F)

/-- The marks around a string: which one it is and whether three of them stand at either end. -/
structure Quotes where
  mark : Char
  triple : Bool

/-- The character that another one behind a backslash stands for. -/
def shortEscape? : Char → Option Char
  | 'b' => some '\x08'
  | 't' => some '\t'
  | 'n' => some '\n'
  | 'f' => some '\x0c'
  | 'r' => some '\r'
  | '"' => some '"'
  | '\\' => some '\\'
  | _ => none

/-- The character whose code is written in a number of hexadecimal digits, and what follows them. -/
def code? (count : Nat) (cs : List Char) : Option (Char × List Char) :=
  let digits := cs.take count
  match Text.hexNumber? digits with
  | some code =>
    if digits.length = count ∧ code.isValidChar then some (Char.ofNat code, cs.drop count) else none
  | none => none

/-- What the text behind a backslash begins with: a character, or the join of two lines. -/
def escape? (triple : Bool) : List Char → Option (Option Char × List Char)
  | 'u' :: rest => (code? 4 rest).map fun (c, rest) => (some c, rest)
  | 'U' :: rest => (code? 8 rest).map fun (c, rest) => (some c, rest)
  | rest =>
    match rest.dropWhile isBlank with
    | '\n' :: after =>
      if triple then some (none, after.dropWhile fun c => isBlank c || c = '\n') else none
    | _ =>
      match rest with
      | c :: rest => (shortEscape? c).map fun c => (some c, rest)
      | [] => none

namespace Quotes

/-- How many marks stand at either end. -/
def width (quotes : Quotes) : Nat :=
  if quotes.triple then 3 else 1

/-- The last characters of a string and what follows it, if the closing marks stand here. -/
def close? (quotes : Quotes) (cs : List Char) : Option (List Char × List Char) :=
  -- Marks before the closing ones belong to the string, but they are fewer than those.
  let marks := cs.takeWhile (· = quotes.mark)
  let last := min (quotes.width - 1) (marks.length - quotes.width)
  if quotes.width ≤ marks.length then some (marks.take last, cs.drop (last + quotes.width))
  else none

/-- What the text of a string begins with: a character, or the join of two lines. -/
def unit? (quotes : Quotes) : List Char → Option (Option Char × List Char)
  | [] => none
  | c :: rest =>
    if c = '\\' ∧ quotes.mark = '"' then escape? quotes.triple rest
    else if isPlain c ∨ quotes.triple ∧ c = '\n' then some (some c, rest)
    else none

end Quotes

/-- What follows a coded character is no longer than the text that begins with its digits. -/
theorem code?_length_le {count : Nat} {c : Char} {cs rest : List Char}
    (found : code? count cs = some (c, rest)) : rest.length ≤ cs.length := by
  -- The digits are dropped.
  simp only [code?] at found
  split at found
  · split at found
    · cases found
      simp only [List.length_drop]
      omega
    · contradiction
  · contradiction

/-- What follows an escape is no longer than the text behind its backslash. -/
theorem escape?_length_le {triple : Bool} {c : Option Char} {cs rest : List Char}
    (found : escape? triple cs = some (c, rest)) : rest.length ≤ cs.length := by
  -- Every kind of escape leaves an end of the text.
  unfold escape? at found
  split at found
  · obtain ⟨⟨code, after⟩, coded, same⟩ := Option.map_eq_some_iff.mp found
    cases same
    exact Nat.le_succ_of_le (code?_length_le coded)
  · obtain ⟨⟨code, after⟩, coded, same⟩ := Option.map_eq_some_iff.mp found
    cases same
    exact Nat.le_succ_of_le (code?_length_le coded)
  · split at found
    · next after blanks =>
      split at found
      · cases found
        -- A backslash at the end of a line takes the blanks on the next ones with it.
        have lineEnd := (List.dropWhile_suffix isBlank (l := cs)).length_le
        have nextLine :=
          (List.dropWhile_suffix (fun c => isBlank c || c = '\n') (l := after)).length_le
        rw [blanks, List.length_cons] at lineEnd
        omega
      · contradiction
    · split at found
      · obtain ⟨short, _, same⟩ := Option.map_eq_some_iff.mp found
        cases same
        exact Nat.le_succ _
      · contradiction

/-- What follows a part of a string is shorter than the text that began with it. -/
theorem Quotes.unit?_length_lt {quotes : Quotes} {c : Option Char} {cs rest : List Char}
    (found : quotes.unit? cs = some (c, rest)) : rest.length < cs.length := by
  -- The first character is given up in any case.
  unfold Quotes.unit? at found
  split at found
  · contradiction
  · split at found
    · exact Nat.lt_succ_of_le (escape?_length_le found)
    · split at found
      · cases found
        exact Nat.lt_succ_self _
      · contradiction

/-- What follows the closing marks is shorter than the text that begins with them. -/
theorem Quotes.close?_length_lt {quotes : Quotes} {last cs rest : List Char}
    (found : quotes.close? cs = some (last, rest)) : rest.length < cs.length := by
  -- There is at least one closing mark, and all marks are part of the text.
  have bound := (List.takeWhile_prefix (· = quotes.mark) (l := cs)).length_le
  have positive : 1 ≤ quotes.width := by
    unfold width
    split <;> decide
  simp only [close?] at found
  split at found
  · cases found
    simp only [List.length_drop]
    omega
  · contradiction

/-- Splits the rest of a string from a text, given the characters before, the latest first. -/
def Quotes.scan (quotes : Quotes) (done cs : List Char) : Option (String × List Char) :=
  match quotes.close? cs with
  | some (last, rest) => some (String.ofList (done.reverse ++ last), rest)
  | none =>
    match found : quotes.unit? cs with
    | some (c, rest) =>
      have := unit?_length_lt found
      quotes.scan (c.toList ++ done) rest
    | none => none
termination_by cs.length

/-- What follows a string is shorter than the text that was left of it. -/
theorem Quotes.scan_length_lt {quotes : Quotes} {done cs rest : List Char} {text : String}
    (found : quotes.scan done cs = some (text, rest)) : rest.length < cs.length := by
  -- Every part and the closing marks take something away.
  fun_induction Quotes.scan quotes done cs with
  | case1 done cs last after closed =>
    cases found
    exact close?_length_lt closed
  | case2 done cs _ c after part shorter ih => exact Nat.lt_trans (ih found) shorter
  | case3 => contradiction

/-- The string on one line that a text begins with, and what follows it. -/
def quoted? : List Char → Option (String × List Char)
  | '"' :: rest => Quotes.scan ⟨'"', false⟩ [] rest
  | '\'' :: rest => Quotes.scan ⟨'\'', false⟩ [] rest
  | _ => none

/-- What follows a string on one line is shorter than the text that begins with it. -/
theorem quoted?_length_lt {cs rest : List Char} {text : String}
    (found : quoted? cs = some (text, rest)) : rest.length < cs.length := by
  -- The opening mark comes before what the scan takes away.
  unfold quoted? at found
  split at found
  · exact Nat.lt_succ_of_lt (Quotes.scan_length_lt found)
  · exact Nat.lt_succ_of_lt (Quotes.scan_length_lt found)
  · contradiction

/-- The text without a line end at its beginning. -/
def dropLineEnd : List Char → List Char
  | '\n' :: rest => rest
  | rest => rest

/-- The string that a text begins with, and what follows it. -/
def string? : List Char → Option (String × List Char)
  | '"' :: '"' :: '"' :: rest => Quotes.scan ⟨'"', true⟩ [] (dropLineEnd rest)
  | '\'' :: '\'' :: '\'' :: rest => Quotes.scan ⟨'\'', true⟩ [] (dropLineEnd rest)
  | cs => quoted? cs

/-- Dropping a line end does not lengthen a text. -/
theorem dropLineEnd_length_le (cs : List Char) : (dropLineEnd cs).length ≤ cs.length := by
  -- At most one character is gone.
  unfold dropLineEnd
  split
  · exact Nat.le_succ _
  · exact Nat.le_refl _

/-- What follows a string is shorter than the text that begins with it. -/
theorem string?_length_lt {cs rest : List Char} {text : String}
    (found : string? cs = some (text, rest)) : rest.length < cs.length := by
  -- The opening marks come before what the scan takes away.
  unfold string? at found
  split at found
  · next after =>
    -- Three marks open a text of several lines, whose first line end is dropped.
    have scanned := Quotes.scan_length_lt found
    have start := dropLineEnd_length_le after
    simp only [List.length_cons]
    omega
  · next after =>
    have scanned := Quotes.scan_length_lt found
    have start := dropLineEnd_length_le after
    simp only [List.length_cons]
    omega
  · exact quoted?_length_lt found

end Worksheet.Toml
