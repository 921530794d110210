import Worksheet.Toml.Quoted

/-!
The statements of TOML text: headers of tables, and assignments whose values are strings, hollow, or
a choice of one key.
-/

namespace Worksheet.Toml

/-- A value: a text, an empty table or array, or a table of one key with something hollow behind. -/
inductive Value
  | text (value : String)
  | hollow
  | choice (key : String)
deriving DecidableEq

/-- A statement: which table follows, or which value stands behind some keys. -/
inductive Statement
  | header (keys : List String)
  | assignment (keys : List String) (value : Value)
deriving DecidableEq

/-- What follows a character, if the text begins with it. -/
def expect? (c : Char) : List Char → Option (List Char)
  | d :: rest => if d = c then some rest else none
  | [] => none

/-- The text without the comment that it begins with. -/
def skipComment : List Char → List Char
  | '#' :: rest => rest.dropWhile isPlain
  | rest => rest

/-- What follows the end of a line, before which only blanks and a comment may stand. -/
def endLine? (cs : List Char) : Option (List Char) :=
  match skipComment (cs.dropWhile isBlank) with
  | [] => some []
  | '\n' :: rest => some rest
  | _ => none

/-- The text without the blanks, line ends and comments that it begins with. -/
def skipLines (inComment : Bool) : List Char → List Char
  | [] => []
  | c :: rest =>
    if c = '\n' then skipLines false rest
    else if inComment && isPlain c then skipLines true rest
    else if !inComment && isBlank c then skipLines false rest
    else if !inComment && c = '#' then skipLines true rest
    else c :: rest

/-- Whether a character may stand in a key without quotes. -/
def isKeyChar (c : Char) : Bool :=
  c.isAlphanum || c = '_' || c = '-'

/-- The key that a text begins with, and what follows it. -/
def key? (cs : List Char) : Option (String × List Char) :=
  match quoted? cs with
  | some found => some found
  | none =>
    let bare := cs.takeWhile isKeyChar
    if bare = [] then none else some (String.ofList bare, cs.dropWhile isKeyChar)

/-- What follows a character is shorter than the text that begins with it. -/
theorem expect?_length_lt {c : Char} {cs rest : List Char} (found : expect? c cs = some rest) :
    rest.length < cs.length := by
  -- The character itself is gone.
  unfold expect? at found
  split at found
  · split at found
    · cases found
      exact Nat.lt_succ_self _
    · contradiction
  · contradiction

/-- What follows a key is shorter than the text that begins with it. -/
theorem key?_length_lt {cs rest : List Char} {key : String}
    (found : key? cs = some (key, rest)) : rest.length < cs.length := by
  -- A key without quotes takes away at least its first character.
  unfold key? at found
  split at found
  · next quoted => exact quoted?_length_lt (quoted.trans found)
  · have lengths := congrArg List.length (List.takeWhile_append_dropWhile (p := isKeyChar) (l := cs))
    simp only [List.length_append] at lengths
    simp only at found
    split at found
    · contradiction
    · next nonempty =>
      cases found
      have positive := List.length_pos_iff.mpr nonempty
      omega

/-- What follows a key and a dot is shorter than the text in which they come first. -/
theorem key?_dot_length_lt {cs rest after : List Char} {key : String}
    (found : key? (cs.dropWhile isBlank) = some (key, rest))
    (dot : expect? '.' (rest.dropWhile isBlank) = some after) : after.length < cs.length := by
  -- Blanks may be gone as well.
  have := key?_length_lt found
  have := expect?_length_lt dot
  have := (List.dropWhile_suffix isBlank (l := cs)).length_le
  have := (List.dropWhile_suffix isBlank (l := rest)).length_le
  omega

/-- The keys that a text begins with, dots between them, and what follows, given the keys before. -/
def keysFrom? (done : List String) (cs : List Char) : Option (List String × List Char) :=
  match found : key? (cs.dropWhile isBlank) with
  | none => none
  | some (key, rest) =>
    match dot : expect? '.' (rest.dropWhile isBlank) with
    | none => some ((key :: done).reverse, rest.dropWhile isBlank)
    | some after =>
      have := key?_dot_length_lt found dot
      keysFrom? (key :: done) after
termination_by cs.length

/-- What follows an empty table or array, if the text begins with one. -/
def hollow? : List Char → Option (List Char)
  | '\x7b' :: rest => expect? '\x7d' (rest.dropWhile isBlank)
  | '[' :: rest => expect? ']' (skipLines false rest)
  | _ => none

/-- The key and what follows the table, if the text begins with a table of one hollow entry. -/
def choice? (cs : List Char) : Option (String × List Char) := do
  let inside ← expect? '\x7b' cs
  let (keys, rest) ← keysFrom? [] inside
  let rest ← expect? '=' rest
  let rest ← hollow? (rest.dropWhile isBlank)
  let rest ← expect? '\x7d' (rest.dropWhile isBlank)
  match keys with
  | [key] => return (key, rest)
  | _ => none

/-- The value that a text begins with, and what follows it. -/
def value? (cs : List Char) : Option (Value × List Char) :=
  match string? cs with
  | some (text, rest) => some (.text text, rest)
  | none =>
    match hollow? cs with
    | some rest => some (.hollow, rest)
    | none => (choice? cs).map fun (key, rest) => (.choice key, rest)

/-- The header that a text begins with, and what follows its line. -/
def header? (cs : List Char) : Option (Statement × List Char) := do
  let inside ← expect? '[' cs
  let (keys, rest) ← keysFrom? [] inside
  let rest ← expect? ']' rest
  return (.header keys, ← endLine? rest)

/-- The assignment that a text begins with, and what follows its line. -/
def assignment? (cs : List Char) : Option (Statement × List Char) := do
  let (keys, rest) ← keysFrom? [] cs
  let rest ← expect? '=' rest
  let (value, rest) ← value? (rest.dropWhile isBlank)
  return (.assignment keys value, ← endLine? rest)

/-- The statement of the first line, if that is more than blanks and a comment, and what follows. -/
def line? (cs : List Char) : Option (Option Statement × List Char) :=
  match endLine? cs with
  | some rest => some (none, rest)
  | none =>
    let cs := cs.dropWhile isBlank
    (header? cs <|> assignment? cs).map fun (statement, rest) => (some statement, rest)

/-- Skipping a comment does not lengthen a text. -/
theorem skipComment_length_le (cs : List Char) : (skipComment cs).length ≤ cs.length := by
  -- The comment is dropped with its sign.
  unfold skipComment
  split
  · next inside => exact Nat.le_succ_of_le (List.dropWhile_suffix isPlain).length_le
  · exact Nat.le_refl _

/-- Nothing follows the end of a line, or a line feed is gone. -/
theorem endLine?_eq_nil_or_length_lt {cs rest : List Char} (found : endLine? cs = some rest) :
    rest = [] ∨ rest.length < cs.length := by
  -- What is left behind blanks and a comment is nothing or begins with a line feed.
  have blanks := (List.dropWhile_suffix isBlank (l := cs)).length_le
  have comment := skipComment_length_le (cs.dropWhile isBlank)
  unfold endLine? at found
  split at found
  · cases found
    exact Or.inl rfl
  · next after lineEnd =>
    cases found
    rw [lineEnd, List.length_cons] at comment
    exact Or.inr (by omega)
  · contradiction

/-- What follows the end of a line is no longer than the text from there on. -/
theorem endLine?_length_le {cs rest : List Char} (found : endLine? cs = some rest) :
    rest.length ≤ cs.length := by
  -- Nothing is never longer.
  rcases endLine?_eq_nil_or_length_lt found with rfl | shorter
  · exact Nat.zero_le _
  · exact Nat.le_of_lt shorter

/-- Skipping lines does not lengthen a text. -/
theorem skipLines_length_le (inComment : Bool) (cs : List Char) :
    (skipLines inComment cs).length ≤ cs.length := by
  -- Characters are dropped one by one.
  fun_induction skipLines inComment cs <;> simp only [List.length_cons, List.length_nil] <;> omega

/-- What follows some keys is shorter than the text that begins with them. -/
theorem keysFrom?_length_lt {done keys : List String} {cs rest : List Char}
    (found : keysFrom? done cs = some (keys, rest)) : rest.length < cs.length := by
  -- Each key takes something away, and blanks and dots may do so too.
  fun_induction keysFrom? done cs with
  | case1 => contradiction
  | case2 done cs key after here dot =>
    have shorter := key?_length_lt here
    have before := (List.dropWhile_suffix isBlank (l := cs)).length_le
    have behind := (List.dropWhile_suffix isBlank (l := after)).length_le
    cases found
    omega
  | case3 done cs key after here others dot shorter ih => exact Nat.lt_trans (ih found) shorter

/-- What follows an empty table or array is shorter than the text that begins with it. -/
theorem hollow?_length_lt {cs rest : List Char} (found : hollow? cs = some rest) :
    rest.length < cs.length := by
  -- Both brackets are gone.
  unfold hollow? at found
  split at found
  · next inside =>
    have closed := expect?_length_lt found
    -- Within braces there are only blanks, and within brackets lines as well.
    have blanks := (List.dropWhile_suffix isBlank (l := inside)).length_le
    simp only [List.length_cons]
    omega
  · next inside =>
    have closed := expect?_length_lt found
    have lines := skipLines_length_le false inside
    simp only [List.length_cons]
    omega
  · contradiction

/-- What follows a table of one entry is shorter than the text that begins with it. -/
theorem choice?_length_lt {cs rest : List Char} {key : String}
    (found : choice? cs = some (key, rest)) : rest.length < cs.length := by
  -- Every part of the table takes something away.
  simp only [choice?, Option.bind_eq_bind, Option.bind_eq_some_iff, Prod.exists] at found
  obtain ⟨inside, opened, keys, behindKey, named, behindSign, assigned, behindValue, hollow,
    behindTable, closed, single⟩ := found
  -- The parts are taken one behind the other, with blanks between them.
  have first := expect?_length_lt opened
  have second := keysFrom?_length_lt named
  have third := expect?_length_lt assigned
  have fourth := hollow?_length_lt hollow
  have fifth := expect?_length_lt closed
  have blanks := (List.dropWhile_suffix isBlank (l := behindSign)).length_le
  have moreBlanks := (List.dropWhile_suffix isBlank (l := behindValue)).length_le
  split at single
  · cases single
    omega
  · contradiction

/-- What follows a value is shorter than the text that begins with it. -/
theorem value?_length_lt {cs rest : List Char} {value : Value}
    (found : value? cs = some (value, rest)) : rest.length < cs.length := by
  -- No kind of value is without characters.
  unfold value? at found
  split at found
  · next string =>
    cases found
    exact string?_length_lt string
  · split at found
    · next hollow =>
      cases found
      exact hollow?_length_lt hollow
    · obtain ⟨⟨key, after⟩, choice, same⟩ := Option.map_eq_some_iff.mp found
      cases same
      exact choice?_length_lt choice

/-- What follows a header is shorter than the text that begins with it. -/
theorem header?_length_lt {cs rest : List Char} {statement : Statement}
    (found : header? cs = some (statement, rest)) : rest.length < cs.length := by
  -- The brackets are gone, and so are the keys.
  simp only [header?, Option.bind_eq_bind, Option.bind_eq_some_iff, Prod.exists] at found
  obtain ⟨inside, opened, keys, behindKeys, named, behindBracket, closed, next, ended, same⟩ := found
  have first := expect?_length_lt opened
  have second := keysFrom?_length_lt named
  have third := expect?_length_lt closed
  have fourth := endLine?_length_le ended
  cases same
  omega

/-- What follows an assignment is shorter than the text that begins with it. -/
theorem assignment?_length_lt {cs rest : List Char} {statement : Statement}
    (found : assignment? cs = some (statement, rest)) : rest.length < cs.length := by
  -- The keys, the equals sign and the value are gone.
  simp only [assignment?, Option.bind_eq_bind, Option.bind_eq_some_iff, Prod.exists] at found
  obtain ⟨keys, behindKeys, named, behindSign, assigned, value, behindValue, valued, next, ended,
    same⟩ := found
  have first := keysFrom?_length_lt named
  have second := expect?_length_lt assigned
  have third := value?_length_lt valued
  have fourth := endLine?_length_le ended
  have blanks := (List.dropWhile_suffix isBlank (l := behindSign)).length_le
  cases same
  omega

/-- What follows the first line of a text is shorter than the text. -/
theorem line?_length_lt {c : Char} {cs rest : List Char} {statement : Option Statement}
    (found : line? (c :: cs) = some (statement, rest)) : rest.length < cs.length + 1 := by
  -- The line is blank, a header or an assignment.
  have blanks := (List.dropWhile_suffix isBlank (l := c :: cs)).length_le
  rw [List.length_cons] at blanks
  unfold line? at found
  split at found
  · next ended =>
    cases found
    rcases endLine?_eq_nil_or_length_lt ended with rfl | shorter
    · exact Nat.succ_pos _
    · exact shorter
  · obtain ⟨⟨here, after⟩, either, same⟩ := Option.map_eq_some_iff.mp found
    cases same
    simp only [Option.orElse_eq_orElse, Option.orElse_eq_or, Option.or_eq_some_iff] at either
    -- A header and an assignment begin behind the blanks.
    rcases either with header | ⟨_, assignment⟩
    · exact Nat.lt_of_lt_of_le (header?_length_lt header) blanks
    · exact Nat.lt_of_lt_of_le (assignment?_length_lt assignment) blanks

/-- The statements of a text, given those before it, the latest first. -/
def statementsFrom (done : List Statement) : List Char → Option (List Statement)
  | [] => some done.reverse
  | c :: cs =>
    match found : line? (c :: cs) with
    | some (statement, rest) =>
      have := line?_length_lt found
      statementsFrom (statement.toList ++ done) rest
    | none => none
termination_by cs => cs.length

/-- The text with each carriage return and line feed made one line feed, given the text before it
from its end. -/
def joinLineEnds (done : List Char) : List Char → List Char
  | [] => done.reverse
  | '\r' :: '\n' :: rest => joinLineEnds ('\n' :: done) rest
  | c :: rest => joinLineEnds (c :: done) rest

/-- The statements of a text, which may begin with a byte order mark. -/
def Statement.ofText (text : String) : Option (List Statement) :=
  match text.toList with
  | '\ufeff' :: cs => statementsFrom [] (joinLineEnds [] cs)
  | cs => statementsFrom [] (joinLineEnds [] cs)

end Worksheet.Toml
