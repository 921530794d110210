import Worksheet.Proofs.Snapshot.Entries
import Worksheet.Proofs.Text.Runs
import Worksheet.Snapshot.Grid

/-!
What the lines of a document say. A document is read as its lines are, one after the other, and the
lines of a snapshot say its tag and its entries as long as each formula or number is over with its
first line.
-/

namespace Worksheet

open Text (Trimmed isBlank)

namespace Snapshot

variable {text line value : List Char} {lines : List (List Char)} {name input tag : String}
  {content : GridLine} {said : List GridLine}

/-- A character that is not a backslash stands for itself. -/
theorem unescape_cons {c : Char} (plain : c ≠ '\\') (rest : List Char) :
    unescape (c :: rest) = c :: unescape rest := by
  rw [unescape]
  -- No escape begins with the character.
  all_goals
    intros
    contradiction

/-- Every text is read as it was before it was escaped. -/
theorem unescape_escape (text : List Char) : unescape (escape text) = text := by
  induction text with
  | nil => rfl
  | cons c rest ih =>
    rw [escape, List.flatMap_cons, ← escape]
    -- Each of the three escapes is read as the character that it stands for.
    split_ifs with backslash quote feed
    · rw [backslash, List.cons_append, List.cons_append, List.nil_append, unescape, ih]
    · rw [quote, List.cons_append, List.cons_append, List.nil_append, unescape, ih]
    · rw [feed, List.cons_append, List.cons_append, List.nil_append, unescape, ih]
    · rw [List.singleton_append, unescape_cons backslash, ih]

/-- Escaped text has no line feeds. -/
theorem feed_notMem_escape (text : List Char) : '\n' ∉ escape text := by
  -- A line feed is written as two other characters.
  intro member
  obtain ⟨c, -, written⟩ := List.mem_flatMap.mp member
  split_ifs at written with backslash quote feed
  · simp at written
  · simp at written
  · simp at written
  · exact feed (List.mem_singleton.mp written).symm

/-- An input that is written as it is entered is not empty. -/
theorem ne_nil_of_isBare (bare : isBare input = true) : input.toList ≠ [] := by
  -- An empty input is neither a formula nor a number.
  intro empty
  have none : isBare "" = false := by decide +kernel
  rw [String.toList_eq_nil_iff.mp empty, none] at bare
  cases bare

/-- The sign of a formula or a number is enough to read an input as it was. -/
theorem readValue_toList (bare : isBare input = true) :
    readValue input.toList = .ok (some input) := by
  obtain ⟨first, rest, spelled⟩ := List.exists_cons_of_ne_nil (ne_nil_of_isBare bare)
  have whole : String.ofList (first :: rest) = input := by
    rw [← spelled, String.ofList_toList]
  by_cases formula : first = '='
  · -- A formula is taken as it stands.
    subst formula
    rw [spelled, readValue, whole]
  · -- Otherwise the input is a number, and none begins with a quote.
    have number : (Double.read? input).isSome = true := by
      simpa [isBare, String.startsWith_char_eq_head?, spelled, formula] using bare
    have unquoted : first ≠ '"' := by
      rintro rfl
      rw [Double.read?_eq_none spelled (by decide) (by decide) (by decide) (by decide)] at number
      cases number
    rw [spelled, readValue, if_neg (fun quoted => unquoted quoted.1), whole, if_pos number]
    exact formula

/-- An input that is written as it is entered is one without its outer blanks as well. -/
theorem isBare_trim (bare : isBare input = true) : isBare (Text.trim input) = true := by
  rw [isBare, Bool.or_eq_true] at bare ⊢
  rw [Double.read?_trim]
  refine bare.imp_left fun signed => ?_
  -- The sign of formulas is not blank, and so it stays in front.
  obtain ⟨text, spelled⟩ := Contents.exists_of_sign signed
  have solid : isBlank '=' = false := by decide
  obtain ⟨kept, -, -, -, trimmed⟩ := Text.exists_trimBlanks_cons solid text.toList
  rw [String.startsWith_char_eq_head?, Text.trim, String.toList_ofList, spelled, trimmed]
  rfl

/-- What is read of the written form of an input, which loses its outer blanks if it is written as it
is entered. -/
def reread (input : String) : String :=
  if isBare input then Text.trim input else input

/-- The written form of an input is read as that input, perhaps without its outer blanks. -/
theorem readValue_gridValue (input : String) :
    Text.trimBlanks (gridValue input) ≠ [] ∧
      readValue (Text.trimBlanks (gridValue input)) = .ok (some (reread input)) := by
  unfold gridValue reread
  split
  · -- Without quotes the value is trimmed, and read as it is then.
    rename_i bare
    have trimmed := isBare_trim bare
    have spelled : (Text.trim input).toList = Text.trimBlanks input.toList := String.toList_ofList
    rw [← spelled]
    exact ⟨ne_nil_of_isBare trimmed, readValue_toList trimmed⟩
  · -- The quotes are no blanks, they are taken off and the text between them is read as it was.
    have quoted : Trimmed ('"' :: escape input.toList ++ ['"']) := by
      constructor
      · intro c first
        cases first
        decide
      · intro c last
        rw [List.getLast?_concat, Option.mem_some_iff] at last
        exact last ▸ by decide
    rw [quoted.trimBlanks]
    refine ⟨by simp, ?_⟩
    rw [List.cons_append, readValue]
    · simp [unescape_escape]
    · simp

/-- Whether nothing but blanks stands behind the first line of an input. -/
def OneLine (input : String) : Prop :=
  ∀ c ∈ input.toList.dropWhile (· ≠ '\n'), isBlank c = true

instance (input : String) : Decidable (OneLine input) :=
  List.decidableBAll (isBlank · = true) (input.toList.dropWhile (· ≠ '\n'))

/-- Nothing but blanks stands behind the first line of the written form of an input, if that holds of
the input or it is put in quotes. -/
theorem isBlank_of_gridValue (fits : isBare input = true → OneLine input) :
    ∀ c ∈ (gridValue input).dropWhile (· ≠ '\n'), isBlank c = true := by
  unfold gridValue
  split
  · rename_i bare
    exact fits bare
  · -- What stands in quotes has its line feeds escaped.
    have feedless : '\n' ∉ '"' :: escape input.toList ++ ['"'] := by
      simp [feed_notMem_escape]
    have whole : ('"' :: escape input.toList ++ ['"']).dropWhile (· ≠ '\n') = [] :=
      List.dropWhile_eq_nil_iff.mpr (Text.forall_ne feedless)
    rw [whole]
    simp

/-- A line is read as an entry if it is no comment, a name stands before its first colon and the value
behind that is read as an input. -/
theorem readLine_eq_entry_iff : readLine line = .ok (.entry name input) ↔
    ∃ before value, Text.trimBlanks line = before ++ ':' :: value ∧ ':' ∉ before ∧
      before.head? ≠ some '#' ∧ name ≠ "" ∧ Text.trimBlanks before = name.toList ∧
      readValue (Text.trimBlanks value) = .ok (some input) := by
  unfold readLine
  generalize Text.trimBlanks line = cs
  constructor
  · -- Only a line with a colon behind a name and a readable value gets that far.
    intro read
    split at read
    · cases read
    · split at read <;> cases read
    · rename_i present unmarked
      split at read
      · cases read
      · rename_i colon value behind
        dsimp only at read
        split at read
        · cases read
        rename_i nonempty
        obtain ⟨found, read, said⟩ := bind_eq_ok.mp read
        cases found with
        | none => cases said
        | some found =>
          cases said
          -- The name ends at the first colon.
          obtain rfl := Text.eq_of_dropWhile behind
          obtain ⟨whole, colonless⟩ := Text.eq_append_separator_iff.mpr ⟨rfl, behind⟩
          refine ⟨_, value, whole, colonless, fun marked => ?_, ?_, ?_, read⟩
          · -- A mark at the front would have made the line a comment.
            obtain ⟨rest, first⟩ := List.head?_eq_some_iff.mp marked
            rw [first, List.cons_append] at whole
            exact unmarked _ whole
          · rwa [Ne, ← String.toList_eq_nil_iff, String.toList_ofList]
          · rw [String.toList_ofList]
  · -- Conversely the parts are split at the same colon again.
    rintro ⟨before, value, whole, colonless, unmarked, nonempty, named, read⟩
    obtain ⟨front, behind⟩ := Text.eq_append_separator_iff.mp ⟨whole, colonless⟩
    have nonempty : name.toList ≠ [] := fun empty => nonempty (String.toList_eq_nil_iff.mp empty)
    split
    · simp at whole
    · -- The name is not marked, so that the line is no comment.
      cases before with
      | nil => cases whole
      | cons c others =>
        cases whole
        exact absurd rfl unmarked
    · rw [front, behind]
      dsimp only
      rw [named, if_neg nonempty, read, String.ofList_toList]
      rfl

/-- Blanks are read as nothing. -/
theorem readLine_of_blank (blank : ∀ c ∈ line, isBlank c = true) : readLine line = .ok .nothing := by
  -- Trimming leaves nothing.
  unfold readLine
  rw [Text.trimBlanks_eq_nil_iff.mpr blank]

/-- A line without a colon is not read, unless it is blank or a comment. -/
theorem readLine_of_colonless (colonless : ':' ∉ line) (present : Text.trimBlanks line ≠ [])
    (unmarked : (Text.trimBlanks line).head? ≠ some '#') :
    readLine line = .error .missingColon := by
  -- A colon that trimming leaves was there before.
  have absent : ':' ∉ Text.trimBlanks line := fun inside =>
    colonless (Text.mem_of_mem_trimBlanks inside)
  have none : (Text.trimBlanks line).dropWhile (· ≠ ':') = [] :=
    List.dropWhile_eq_nil_iff.mpr (Text.forall_ne absent)
  unfold readLine
  split
  · rename_i empty
    exact absurd empty present
  · rename_i comment marked
    rw [marked] at unmarked
    exact absurd rfl unmarked
  · rw [none]

/-- Whether a name can stand before the colon of a line. -/
def NameFits (name : String) : Prop :=
  name ≠ "" ∧ Text.trim name = name ∧ name.startsWith '#' = false ∧ ':' ∉ name.toList ∧
    '\n' ∉ name.toList

/-- A line is read as an entry if a name and a value stand on either side of a colon. -/
theorem readLine_entry (fits : NameFits name) (present : Text.trimBlanks value ≠ [])
    (read : readValue (Text.trimBlanks value) = .ok (some input)) :
    readLine (name.toList ++ ": ".toList ++ value) = .ok (.entry name input) := by
  -- The name stands before the first colon, and the value is trimmed behind it.
  obtain ⟨nonempty, ownTrim, unmarked, colonless, -⟩ := fits
  have trimmed := Text.trim_eq_self_iff.mp ownTrim
  obtain ⟨front, back, before, behind, spelled⟩ := Text.exists_trimBlanks value
  have clear := Text.trimmed_trimBlanks value
  generalize Text.trimBlanks value = kept at present read spelled clear
  refine readLine_eq_entry_iff.mpr ⟨name.toList, ' ' :: front ++ kept, ?_, colonless, ?_, nonempty,
    trimmed.trimBlanks, ?_⟩
  · -- The line begins with the name and ends with the value, so that only the blanks behind it go.
    have line : name.toList ++ ": ".toList ++ value =
        [] ++ (name.toList ++ ':' :: (' ' :: front ++ kept)) ++ back := by
      simp [spelled]
    rw [line, Text.trimBlanks_append (by simp) behind, Trimmed.trimBlanks]
    have named : name.toList ≠ [] := fun empty => nonempty (String.toList_eq_nil_iff.mp empty)
    constructor
    · intro c first
      rw [List.head?_append_of_ne_nil _ named] at first
      exact trimmed.starts c first
    · intro c last
      rw [← List.cons_append, ← List.append_assoc, List.getLast?_append_of_ne_nil _ present] at last
      exact clear.ends c last
  · simpa [String.startsWith_char_eq_head?] using unmarked
  · -- The blanks before the value go as well.
    have blank : ∀ c ∈ ' ' :: front, isBlank c = true :=
      List.forall_mem_cons.mpr ⟨by decide, before⟩
    rw [← List.append_nil (' ' :: front ++ kept), Text.trimBlanks_append blank (by simp),
      clear.trimBlanks, read]

/-- The name of an entry can stand before the colon of a line, as it does on the line that it is read
from. -/
theorem nameFits_of_readLine (feedless : '\n' ∉ line)
    (read : readLine line = .ok (.entry name input)) : NameFits name := by
  obtain ⟨before, value, spelled, colonless, unmarked, nonempty, named, -⟩ :=
    readLine_eq_entry_iff.mp read
  -- The name is trimmed from what stands before the first colon.
  have within : ∀ c ∈ name.toList, c ∈ before := by
    intro c member
    rw [← named] at member
    exact Text.mem_of_mem_trimBlanks member
  refine ⟨nonempty, ?_, ?_, fun inside => colonless (within _ inside), fun inside => feedless ?_⟩
  · rw [Text.trim_eq_self_iff, ← named]
    exact Text.trimmed_trimBlanks before
  · -- No blank stands in front of the name, which therefore begins as the line does.
    cases before with
    | nil => exact absurd (String.toList_eq_nil_iff.mp (named.symm.trans rfl)) nonempty
    | cons first rest =>
      have solid : isBlank first = false :=
        (Text.trimmed_trimBlanks line).starts first (by rw [spelled]; rfl)
      obtain ⟨kept, -, -, -, trimmed⟩ := Text.exists_trimBlanks_cons solid rest
      rw [String.startsWith_char_eq_head?, ← named, trimmed]
      simpa using unmarked
  · -- What stands in the name stands in the line.
    apply Text.mem_of_mem_trimBlanks
    rw [spelled]
    exact List.mem_append_left _ (within _ inside)

/-- The line with the tag is read as such. -/
theorem readLine_version (trimmed : Trimmed tag.toList) :
    readLine ("# version: ".toList ++ tag.toList) = .ok (.version tag) := by
  by_cases empty : tag.toList = []
  · -- The blank before the tag is trimmed away with nothing behind it.
    rw [String.toList_eq_nil_iff.mp empty]
    rfl
  · -- The line ends with the tag, which has no blank at its end.
    have ends : ∀ cs : List Char, ∀ c ∈ (cs ++ tag.toList).getLast?, Text.isBlank c = false := by
      intro cs c last
      rw [List.getLast?_append_of_ne_nil _ empty] at last
      exact trimmed.ends c last
    have whole : Text.trimBlanks ("# version: ".toList ++ tag.toList) =
        '#' :: ' ' :: ("version: ".toList ++ tag.toList) :=
      Trimmed.trimBlanks ⟨by rintro c ⟨⟩; decide, ends "# version: ".toList⟩
    have comment : Text.trimBlanks (' ' :: ("version: ".toList ++ tag.toList)) =
        "version:".toList ++ ' ' :: tag.toList := by
      rw [Text.trimBlanks_cons (by decide)]
      exact Trimmed.trimBlanks ⟨by rintro c ⟨⟩; decide, ends "version: ".toList⟩
    have marked : "version:".toList.isPrefixOf? ("version:".toList ++ ' ' :: tag.toList) =
        some (' ' :: tag.toList) := rfl
    have said : Text.trimBlanks (' ' :: tag.toList) = tag.toList := by
      rw [Text.trimBlanks_cons (by decide), trimmed.trimBlanks]
    simp only [readLine, whole, comment, marked, said, String.ofList_toList]

/-- A tag is its own trim, and it has no characters but those of the line that it is read from. -/
theorem tagFits_of_readLine (read : readLine line = .ok (.version tag)) :
    Text.trim tag = tag ∧ ∀ c ∈ tag.toList, c ∈ line := by
  unfold readLine at read
  split at read
  · cases read
  · rename_i comment marked
    -- Among comments only one with the mark of a version states a tag.
    split at read
    · -- The tag stands behind its mark in the comment, and trimming adds nothing.
      rename_i rest said
      cases read
      have stated := List.append_eq_of_isPrefixOf?_eq_some said
      rw [Text.trim_eq_self_iff, String.toList_ofList]
      refine ⟨Text.trimmed_trimBlanks rest, fun c member => ?_⟩
      apply Text.mem_of_mem_trimBlanks
      rw [marked]
      apply List.mem_cons_of_mem
      apply Text.mem_of_mem_trimBlanks
      rw [← stated]
      exact List.mem_append_right _ (Text.mem_of_mem_trimBlanks member)
    · cases read
  · -- A line that is no comment states no tag.
    split at read
    · cases read
    · dsimp only at read
      split at read
      · cases read
      · obtain ⟨value, -, said⟩ := bind_eq_ok.mp read
        split at said <;> cases said

/-- What has been read of a document once one more line has been read. -/
def GridState.say (state : GridState) : GridLine → GridState
  | .nothing => state
  | .version tag => { state with version := state.version <|> some tag }
  | .entry name input => { state with entries := state.entries.insert name input }

/-- Lines are taken if each of them is read, and what they say is said one after the other. -/
theorem foldlM_take_eq_ok_iff {state last : GridState} {first : Nat} :
    (lines.zipIdx first).foldlM GridState.take state = .ok last ↔
      ∃ said : List GridLine, lines.map readLine = said.map .ok ∧
        said.foldl GridState.say state = last := by
  -- Each line is read and then told to the state, the first one before the others.
  induction lines generalizing state first with
  | nil =>
    constructor
    · rintro ⟨⟩
      exact ⟨[], rfl, rfl⟩
    · rintro ⟨said, same, rfl⟩
      rw [List.map_eq_nil_iff.mp same.symm]
      rfl
  | cons line rest ih =>
    -- Where a line stands matters to its errors only.
    have taken : ∀ content, readLine line = .ok content →
        state.take (line, first) = .ok (state.say content) := by
      intro content read
      rw [GridState.take, read]
      cases content <;> rfl
    rw [List.zipIdx_cons, List.foldlM_cons]
    constructor
    · intro done
      obtain ⟨between, begun, others⟩ := bind_eq_ok.mp done
      obtain ⟨said, same, whole⟩ := ih.mp others
      cases read : readLine line with
      -- A line that cannot be read would have ended the run.
      | error cause =>
        rw [GridState.take, read] at begun
        cases begun
      | ok content =>
        rw [taken content read] at begun
        cases begun
        exact ⟨content :: said, by rw [List.map_cons, List.map_cons, read, same], whole⟩
    · rintro ⟨said, same, whole⟩
      cases said with
      | nil => cases same
      | cons content said =>
        rw [List.map_cons, List.map_cons, List.cons.injEq] at same
        rw [taken content same.1]
        exact ih.mpr ⟨said, same.2, whole⟩

/-- A document is read if each of its lines is, and what they say makes up the snapshot. -/
theorem ofGrid_eq_ok_iff {text : String} {snapshot : Snapshot} :
    ofGrid text = .ok snapshot ↔ ∃ said : List GridLine,
      (Text.split '\n' text.toList).map readLine = said.map .ok ∧
        (said.foldl GridState.say ⟨none, ∅⟩).version.getD defaultVersion = snapshot.version ∧
        (said.foldl GridState.say ⟨none, ∅⟩).entries = snapshot.entries := by
  rw [ofGrid]
  constructor
  · -- The lines are taken in order, and the first one that cannot be read would be the answer.
    intro read
    obtain ⟨last, done, same⟩ := bind_eq_ok.mp read
    obtain ⟨said, spoken, rfl⟩ := foldlM_take_eq_ok_iff.mp done
    cases same
    exact ⟨said, spoken, rfl, rfl⟩
  · -- Where every line is read, the run goes through what they tell.
    rintro ⟨said, spoken, version, entries⟩
    refine bind_eq_ok.mpr ⟨_, foldlM_take_eq_ok_iff.mpr ⟨said, spoken, rfl⟩, ?_⟩
    rw [version, entries]
    rfl

section Document

variable {state : GridState} {text : String} {snapshot : Snapshot}

/-- What a document says stands on one of its lines. -/
theorem exists_line (read : lines.map readLine = said.map .ok) (member : content ∈ said) :
    ∃ line ∈ lines, readLine line = .ok content := by
  -- Both lists agree, position by position.
  apply List.mem_map.mp
  rw [read]
  exact List.mem_map_of_mem member

/-- Every line of a document says something. -/
theorem exists_content (read : lines.map readLine = said.map .ok) (member : line ∈ lines) :
    ∃ content, readLine line = .ok content := by
  -- Both lists agree, position by position.
  have told := List.mem_map_of_mem (f := readLine) member
  rw [read] at told
  obtain ⟨content, -, same⟩ := List.mem_map.mp told
  exact ⟨content, same.symm⟩

/-- A tag was there before or it has been said. -/
theorem version_foldl_say (stated : (said.foldl GridState.say state).version = some tag) :
    state.version = some tag ∨ .version tag ∈ said := by
  -- A tag is stated by a later line, by this one, or was there before.
  induction said generalizing state with
  | nil => exact Or.inl stated
  | cons content rest ih =>
    rcases ih stated with before | later
    · cases content with
      | nothing => exact Or.inl before
      | entry name input => exact Or.inl before
      | version other =>
        -- The first tag counts.
        have first : state.version.or (some other) = some tag := by
          simpa [GridState.say] using before
        rcases Option.or_eq_some_iff.mp first with earlier | ⟨-, same⟩
        · exact Or.inl earlier
        · exact Or.inr (Option.some.inj same ▸ List.mem_cons_self)
    · exact Or.inr (List.mem_cons_of_mem _ later)

/-- An entry was there before or it has been said. -/
theorem entry_foldl_say (stored : (said.foldl GridState.say state).entries[name]? = some input) :
    state.entries[name]? = some input ∨ .entry name input ∈ said := by
  -- An entry is told by a later line, by this one, or was there before.
  induction said generalizing state with
  | nil => exact Or.inl stored
  | cons content rest ih =>
    rcases ih stored with before | later
    · cases content with
      | nothing => exact Or.inl before
      | version tag => exact Or.inl before
      | entry other value =>
        -- The last input of a name counts.
        simp only [GridState.say, Std.ExtTreeMap.getElem?_insert] at before
        split at before
        · rename_i same
          rw [Std.LawfulEqCmp.eq_of_compare same, Option.some.inj before]
          exact Or.inr List.mem_cons_self
        · exact Or.inl before
    · exact Or.inr (List.mem_cons_of_mem _ later)

/-- Whether the tag and the names of a snapshot can stand on lines. -/
structure NamesFit (snapshot : Snapshot) : Prop where
  version : '\n' ∉ snapshot.version.toList ∧ Text.trim snapshot.version = snapshot.version
  name : ∀ (name input : String), snapshot.entries[name]? = some input → NameFits name

/-- The tag and the names of a document can stand on the lines of one again. -/
theorem namesFit_of_ofGrid (read : ofGrid text = .ok snapshot) : snapshot.NamesFit := by
  obtain ⟨said, spoken, version, entries⟩ := ofGrid_eq_ok_iff.mp read
  constructor
  · rw [← version]
    cases stated : (said.foldl GridState.say ⟨none, ∅⟩).version with
    -- A document without a tag has the standard one.
    | none => decide
    | some tag =>
      have told := (version_foldl_say stated).resolve_left (by simp)
      -- The tag was read from some line, and lines have no line feeds.
      obtain ⟨line, member, tagged⟩ := exists_line spoken told
      obtain ⟨trimmed, within⟩ := tagFits_of_readLine tagged
      exact ⟨fun inside => Text.notMem_of_mem_split member (within _ inside), trimmed⟩
  · -- Each entry was read from some line as well.
    intro name input stored
    rw [← entries] at stored
    have told := (entry_foldl_say stored).resolve_left (by simp)
    obtain ⟨line, member, entered⟩ := exists_line spoken told
    exact nameFits_of_readLine (Text.notMem_of_mem_split member) entered

/-- No tag that is read from a document has a line feed. -/
theorem feedless_of_ofGrid (read : ofGrid text = .ok snapshot) : '\n' ∉ snapshot.version.toList :=
  (namesFit_of_ofGrid read).version.1

end Document

/-- Whether each of some lines is read, and all of them together change what has been read in a given
way. -/
def Tells (lines : List (List Char)) (change : GridState → GridState) : Prop :=
  ∃ said : List GridLine, lines.map readLine = said.map .ok ∧
    ∀ state, said.foldl GridState.say state = change state

namespace Tells

variable {others : List (List Char)} {change next : GridState → GridState} {text : String}

/-- A line says what it is read as. -/
theorem single (read : readLine line = .ok content) : Tells [line] fun state => state.say content :=
  ⟨[content], by rw [List.map_singleton, List.map_singleton, read], fun _ => rfl⟩

/-- Lines without contents say nothing. -/
theorem nothing (read : ∀ line ∈ lines, readLine line = .ok .nothing) : Tells lines id := by
  -- Nothing is told as often as there are lines.
  refine ⟨lines.map fun _ => .nothing, ?_, fun state => ?_⟩
  · rw [List.map_map]
    exact List.map_congr_left read
  · rw [List.foldl_map]
    exact List.foldl_fixed lines

/-- Some lines and those behind them say what they say one after the other. -/
theorem append (first : Tells lines change) (second : Tells others next) :
    Tells (lines ++ others) fun state => next (change state) := by
  -- The second lines are told to the state that the first ones leave behind.
  obtain ⟨said, read, spoken⟩ := first
  obtain ⟨more, later, told⟩ := second
  refine ⟨said ++ more, by rw [List.map_append, List.map_append, read, later], fun state => ?_⟩
  rw [List.foldl_append, spoken, told]

/-- The lines of some items say what those of each item say, one after the other. -/
theorem flatMap {α : Type} {items : List α} {linesOf : α → List (List Char)}
    {changeOf : α → GridState → GridState}
    (each : ∀ item ∈ items, Tells (linesOf item) (changeOf item)) :
    Tells (items.flatMap linesOf) fun state =>
      items.foldl (fun state item => changeOf item state) state := by
  -- The lines of the first item come before those of the others.
  induction items with
  | nil => exact nothing (by simp)
  | cons item rest ih =>
    rw [List.flatMap_cons]
    exact (each item List.mem_cons_self).append
      (ih fun other later => each other (List.mem_cons_of_mem item later))

/-- A document is what its lines say to begin with. -/
theorem ofGrid (tells : Tells (Text.split '\n' text.toList) change) : ofGrid text =
    .ok ⟨(change ⟨none, ∅⟩).version.getD defaultVersion, (change ⟨none, ∅⟩).entries⟩ := by
  -- All lines are read, and what they tell is the change.
  obtain ⟨said, read, spoken⟩ := tells
  refine ofGrid_eq_ok_iff.mpr ⟨said, read, ?_⟩
  rw [spoken]
  exact ⟨rfl, rfl⟩

end Tells

/-- The lines of an entry say it, as long as a formula or a number is over with its first line. -/
theorem tells_entry (fits : NameFits name) (single : isBare input = true → OneLine input) :
    Tells (Text.split '\n' (name.toList ++ ": ".toList ++ gridValue input))
      fun state => state.say (.entry name (reread input)) := by
  -- The name and the colon stand on the first line, and any further one is blank.
  have blank := isBlank_of_gridValue single
  have feedless : '\n' ∉ name.toList ++ ": ".toList :=
    List.not_mem_append fits.2.2.2.2 (by decide)
  have inside := Text.forall_ne feedless
  obtain ⟨others, parts, within⟩ :=
    Text.split_eq '\n' (name.toList ++ ": ".toList ++ gridValue input)
  rw [List.takeWhile_append_of_pos inside] at parts
  rw [List.dropWhile_append_of_pos inside] at within
  -- The blanks behind the first line make no difference to the value on it.
  have value : Text.trimBlanks ((gridValue input).takeWhile (· ≠ '\n')) =
      Text.trimBlanks (gridValue input) := by
    have whole := List.takeWhile_append_dropWhile (p := (· ≠ '\n')) (l := gridValue input)
    conv_rhs => rw [← whole, ← List.nil_append (List.takeWhile _ _)]
    exact (Text.trimBlanks_append (by simp) blank).symm
  obtain ⟨present, read⟩ := readValue_gridValue input
  rw [← value] at present read
  have first := Tells.single (readLine_entry fits present read)
  have behind : Tells others id := .nothing fun line member =>
    readLine_of_blank fun c inside => blank c (within line member c inside)
  rw [parts]
  exact first.append behind

/-- Whether each formula and each number of a snapshot is over with its first line. -/
def OneLined (snapshot : Snapshot) : Prop :=
  ∀ (name input : String), snapshot.entries[name]? = some input → isBare input = true → OneLine input

variable {snapshot : Snapshot}

/-- The lines of the text of a snapshot are those of its heading, of its tag and of its entries, and
nothing stands behind them. -/
theorem split_toGrid (snapshot : Snapshot) : Text.split '\n' snapshot.toGrid.toList =
    Text.split '\n' "# Cellgraph Spreadsheet".toList ++
      (Text.split '\n' ("# version: ".toList ++ snapshot.version.toList) ++
        (snapshot.entries.toList.flatMap fun entry =>
          Text.split '\n' (entry.1.toList ++ ": ".toList ++ gridValue entry.2)) ++ [[]]) := by
  -- Each of the written lines is split on its own, and nothing follows the last line feed.
  rw [toGrid, String.toList_ofList, Text.split_unlines, gridLines, List.flatMap_cons,
    List.flatMap_cons, List.flatMap_map, List.append_assoc, List.append_assoc]

/-- The heading of a document is a comment. -/
theorem tells_heading : Tells (Text.split '\n' "# Cellgraph Spreadsheet".toList)
    fun state => state.say .nothing := by
  -- The heading is a comment without a version tag.
  have read : readLine "# Cellgraph Spreadsheet".toList = .ok .nothing := by decide +kernel
  rw [Text.split_of_notMem (by decide)]
  exact .single read

/-- The line of the tag tells it. -/
theorem tells_version (feedless : '\n' ∉ tag.toList) (trimmed : Text.trim tag = tag) :
    Tells (Text.split '\n' ("# version: ".toList ++ tag.toList))
      fun state => state.say (.version tag) := by
  -- Without a line feed the tag stays in its line.
  rw [Text.split_of_notMem (List.not_mem_append (by decide) feedless)]
  exact .single (readLine_version (Text.trim_eq_self_iff.mp trimmed))

/-- The lines of the entries tell them. -/
theorem tells_entries (fits : snapshot.NamesFit) (single : snapshot.OneLined) :
    Tells (snapshot.entries.toList.flatMap fun entry =>
        Text.split '\n' (entry.1.toList ++ ": ".toList ++ gridValue entry.2))
      fun state => snapshot.entries.toList.foldl
        (fun state entry => state.say (.entry entry.1 (reread entry.2))) state := by
  -- Each entry is stored in the snapshot and tells what is read in its place.
  refine Tells.flatMap fun entry member => ?_
  have stored := Std.ExtTreeMap.mem_toList_iff_getElem?_eq_some.mp member
  exact tells_entry (fits.name _ _ stored) (single _ _ stored)

/-- Entries that are said one after the other are stored one after the other. -/
theorem foldl_say_entries (entries : List (String × String)) (state : GridState) :
    entries.foldl (fun state entry => state.say (.entry entry.1 (reread entry.2))) state =
      { state with
        entries := (entries.map fun entry => (entry.1, reread entry.2)).foldl
          (fun entries entry => entries.insert entry.1 entry.2) state.entries } := by
  -- An entry is all that a line adds, and the version tag stays.
  induction entries generalizing state with
  | nil => rfl
  | cons entry rest ih =>
    rw [List.foldl_cons, ih]
    rfl

/-- The text of a snapshot is read as the snapshot without the outer blanks of its formulas and
numbers, as long as each of these is over with its first line. -/
theorem ofGrid_toGrid (fits : snapshot.NamesFit) (single : snapshot.OneLined) :
    ofGrid snapshot.toGrid =
      .ok ⟨snapshot.version, snapshot.entries.map fun _ input => reread input⟩ := by
  -- The heading, the version, the entries and the end are told one behind the other.
  have version := tells_version fits.version.1 fits.version.2
  have ending : Tells [[]] fun state => state.say .nothing := .single rfl
  have whole := tells_heading.append ((version.append (tells_entries fits single)).append ending)
  have read := Tells.ofGrid ((split_toGrid snapshot).symm ▸ whole)
  simp only [foldl_say_entries] at read
  rw [read]
  -- Entries that are inserted in the order of their names give the map that they come from.
  have kept := foldl_insert_toList (snapshot.entries.map fun _ input => reread input)
  rw [Std.ExtTreeMap.toList_map] at kept
  exact congrArg Except.ok (congrArg (Snapshot.mk snapshot.version) kept)

end Snapshot

end Worksheet
