import Worksheet.Proofs.Formula.Trimming
import Worksheet.Proofs.Sheet.Inputs
import Worksheet.Proofs.Snapshot.Lines

/-!
Writing a document again that has been read. Texts are put in quotes, and nothing of them is lost. A
formula or a number is written as it stands, and its line has room for it as long as nothing but
blanks stands behind its first line feed.
-/

namespace Worksheet

open Text (isBlank)

namespace Contents

variable {naming : Naming} {input : String} {c : Char}

/-- Blanks around the sign and the text of a formula, or around a number, make no difference to what
is entered. -/
theorem ofInput_trim (naming : Naming)
    (plain : input.startsWith '=' = true ∨ (Double.read? input).isSome = true) :
    ofInput naming (Text.trim input) = ofInput naming input := by
  -- A number is read without its outer blanks in any case.
  cases number : Double.read? input with
  | some value =>
    rw [ofInput_number number, ofInput_number ((Double.read?_trim input).trans number)]
  | none =>
    -- What is no number begins with the sign, behind which blanks can stand at the end only.
    have signed : input.startsWith '=' = true := plain.resolve_right (by simp [number])
    obtain ⟨text, spelled⟩ := exists_of_sign signed
    have solid : isBlank '=' = false := by decide
    obtain ⟨kept, back, behind, parts, trimmed⟩ := Text.exists_trimBlanks_cons solid text.toList
    have less : (Text.trim input).toList = '=' :: (String.ofList kept).toList := by
      rw [Text.trim, String.toList_ofList, spelled, trimmed, String.toList_ofList]
    have whole : text = String.ofList (kept ++ back) := by rw [← parts, String.ofList_toList]
    rw [ofInput_signed spelled number, ofInput_signed less ((Double.read?_trim input).trans number),
      Formula.ofText, Formula.ofText, whole, Token.ofText_append kept behind]

/-- All characters of what can be entered as a formula or a number are blanks, go on with words or are
signs. -/
theorem kind_of_mem (plain : input.startsWith '=' = true ∨ (Double.read? input).isSome = true)
    (read : (ofInput naming input).isOk = true) (member : c ∈ input.toList) :
    isBlank c = true ∨ goesOn c = true ∨ c ∈ ['=', '(', ')', '+', '-', '*', '/'] := by
  -- An input that is written bare is a number or begins with the sign of formulas.
  cases number : Double.read? input with
  | some value =>
    refine (Double.kind_of_mem number member).imp_right (Or.imp_right fun sign => ?_)
    rcases sign with rfl | rfl <;> simp
  | none =>
    have signed : input.startsWith '=' = true := plain.resolve_right (by simp [number])
    obtain ⟨text, spelled⟩ := exists_of_sign signed
    rw [ofInput_signed spelled number] at read
    obtain ⟨contents, entered⟩ := isOk_iff.mp read
    obtain ⟨f, formula, -⟩ := map_eq_ok.mp entered
    rw [spelled] at member
    -- The sign is followed by an accepted formula, whose characters are known.
    rcases List.mem_cons.mp member with rfl | later
    · simp
    · refine (Formula.kind_of_mem formula later).imp_right (Or.imp_right fun sign => ?_)
      exact List.mem_cons_of_mem _ sign

end Contents

namespace Snapshot

variable {snapshot : Snapshot} {name input : String} {line : List Char}

/-- What is read of the written form of an input is entered as the same contents. -/
theorem ofInput_reread (naming : Naming) (input : String) :
    Contents.ofInput naming (reread input) = Contents.ofInput naming input := by
  -- Only a bare input is trimmed when it is read again, and it is read as the same contents.
  unfold reread
  split
  · rename_i bare
    exact Contents.ofInput_trim naming (by simpa [isBare] using bare)
  · rfl

/-- A line of characters of formulas and numbers is not read unless it is blank. -/
theorem readLine_of_kind
    (kind : ∀ c ∈ line, isBlank c = true ∨ goesOn c = true ∨ c ∈ ['=', '(', ')', '+', '-', '*', '/'])
    {c : Char} (member : c ∈ line) (solid : isBlank c = false) :
    readLine line = .error .missingColon := by
  -- Such a line has no colon and is no comment, and it is not blank.
  have colonless : ':' ∉ line := fun inside => absurd (kind ':' inside) (by decide)
  have unmarked : '#' ∉ line := fun inside => absurd (kind '#' inside) (by decide)
  refine readLine_of_colonless colonless (fun none => ?_) fun marked => ?_
  · rw [Text.trimBlanks_eq_nil_iff.mp none c member] at solid
    cases solid
  · exact unmarked (Text.mem_of_mem_trimBlanks (List.mem_of_head? marked))

/-- What stands behind a line feed in a formula or a number is on lines of its own. -/
theorem mem_split_toGrid {before after : List Char} (stored : snapshot.entries[name]? = some input)
    (bare : isBare input = true) (whole : input.toList = before ++ '\n' :: after)
    (member : line ∈ Text.split '\n' after) :
    line ∈ Text.split '\n' snapshot.toGrid.toList := by
  -- The input is written as it is, so that its line feed ends a line of the grid.
  have written : name.toList ++ ": ".toList ++ gridValue input =
      (name.toList ++ ": ".toList ++ before) ++ '\n' :: after := by
    rw [gridValue, if_pos bare, whole, List.append_assoc _ before]
  have entry : line ∈ Text.split '\n' (name.toList ++ ": ".toList ++ gridValue input) := by
    rw [written, Text.split_append]
    exact List.mem_append_right _ member
  -- The lines of the entry are among those of the whole text.
  rw [split_toGrid]
  refine List.mem_append_right _ (List.mem_append_left _ (List.mem_append_right _ ?_))
  have listed := Std.ExtTreeMap.mem_toList_iff_getElem?_eq_some.mpr stored
  exact List.mem_flatMap.mpr ⟨(name, input), listed, entry⟩

/-- If all inputs of a snapshot can be entered, its text is read only if each of its formulas and
numbers is over with its first line. -/
theorem oneLined_of_isOk
    (entered : ∀ name input : String, snapshot.entries[name]? = some input →
      ∃ naming, (Contents.ofInput naming input).isOk = true)
    (read : (ofGrid snapshot.toGrid).isOk = true) : snapshot.OneLined := by
  intro name input stored bare c member
  -- Every line of the grid has been read.
  obtain ⟨again, read⟩ := isOk_iff.mp read
  obtain ⟨said, spoken, -⟩ := ofGrid_eq_ok_iff.mp read
  obtain ⟨naming, enterable⟩ := entered name input stored
  by_contra solid
  rw [Bool.not_eq_true] at solid
  have different : c ≠ '\n' := by
    rintro rfl
    cases solid
  -- What is not blank stands on a line behind the first one, and that line cannot be read.
  obtain ⟨before, after, whole, line, part, inside⟩ := Text.exists_part member different
  obtain ⟨content, said⟩ := exists_content spoken (mem_split_toGrid stored bare whole part)
  -- The line is part of an input that is entered as a formula or a number.
  have kind : ∀ d ∈ line, isBlank d = true ∨ goesOn d = true ∨
      d ∈ ['=', '(', ')', '+', '-', '*', '/'] := by
    intro d among
    have within := (Text.mem_split_iff.mp ⟨line, part, among⟩).1
    refine Contents.kind_of_mem (by simpa [isBare] using bare) enterable ?_
    rw [whole]
    exact List.mem_append_right _ (List.mem_cons_of_mem _ within)
  rw [readLine_of_kind kind inside solid] at said
  cases said

/-- A document that has been read and is written again is read again with the same tag and the same
names, and each input is entered as the same contents as before under every naming, as long as each
formula and each number is over with its first line. Where all inputs can be entered, the document
cannot be read again otherwise. -/
theorem rewritten_reads_back (text : String) (snapshot : Snapshot)
    (read : ofGrid text = .ok snapshot) :
    (snapshot.OneLined → ∃ again, ofGrid snapshot.toGrid = .ok again ∧
      again.version = snapshot.version ∧
      (∀ name : String, name ∈ again.entries ↔ name ∈ snapshot.entries) ∧
      ∀ name before after : String, snapshot.entries[name]? = some before →
        again.entries[name]? = some after →
        ∀ naming, Contents.ofInput naming after = Contents.ofInput naming before) ∧
    ((∀ name input : String, snapshot.entries[name]? = some input →
        ∃ naming, (Contents.ofInput naming input).isOk = true) →
      (ofGrid snapshot.toGrid).isOk = true → snapshot.OneLined) := by
  -- What is read again is each input as its line shows it.
  refine ⟨fun single => ?_, oneLined_of_isOk⟩
  refine ⟨_, ofGrid_toGrid (namesFit_of_ofGrid read) single, rfl, fun name => ?_, ?_⟩
  · exact Std.ExtTreeMap.mem_map
  · -- An input that lost its outer blanks is still read as the same contents.
    intro name before after stored found naming
    rw [Std.ExtTreeMap.getElem?_map, stored, Option.map_some, Option.some.injEq] at found
    rw [← found]
    exact ofInput_reread naming before

/-- A formula and a number in quotes are written without the quotes and lose the blanks around them,
and a text with a line feed is put in quotes. -/
theorem rewritten_reads_back_quoted :
    let text := "A1: \"=1 \\n\"\nB1: \" 2\"\nC1: \"a\\nb\"\n"
    let snapshot : Snapshot := ⟨"default",
      ((Std.ExtTreeMap.insert ∅ "A1" "=1 \n").insert "B1" " 2").insert "C1" "a\nb"⟩
    ofGrid text = .ok snapshot ∧ snapshot.OneLined ∧
      (∃ again, ofGrid snapshot.toGrid = .ok again ∧
        ∀ name : String, name ∈ again.entries ↔ name ∈ snapshot.entries) ∧
      ofGrid snapshot.toGrid ≠ .ok snapshot := by
  intro text snapshot
  have read : ofGrid text = .ok snapshot := by decide +kernel
  -- Only one input is written bare over two lines, and its second line is blank.
  have single : snapshot.OneLined := by
    have each : ∀ entry ∈ snapshot.entries.toList, isBare entry.2 = true → OneLine entry.2 := by
      decide +kernel
    intro name input stored
    exact each _ (Std.ExtTreeMap.mem_toList_iff_getElem?_eq_some.mpr stored)
  obtain ⟨again, reread, -, names, -⟩ := (rewritten_reads_back text snapshot read).1 single
  exact ⟨read, single, ⟨again, reread, names⟩, by decide +kernel⟩

/-- A formula that stands in quotes and goes on behind a line feed is written without the quotes, and
what is written then cannot be read. -/
theorem lost_behind_line_feed :
    let snapshot : Snapshot := ⟨"default", Std.ExtTreeMap.insert ∅ "A1" "=1+\n2"⟩
    ofGrid "A1: \"=1+\\n2\"" = .ok snapshot ∧
      (Contents.ofInput .plain "=1+\n2").isOk = true ∧
      ofGrid snapshot.toGrid = .error (.parse 4 .missingColon) := by
  intro snapshot
  -- The text, the formula and the lines are short enough to be computed.
  exact ⟨by decide +kernel, by decide +kernel, by decide +kernel⟩

end Snapshot

end Worksheet
