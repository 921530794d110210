import Worksheet.Proofs.Snapshot.Lines

/-!
The plain text format gives back every snapshot whose tag, names, numbers and formulas fit on a line,
as those of a sheet do, and any text whatever.
-/

namespace Worksheet

namespace Snapshot

/-- Whether all parts of a snapshot but the texts can be told apart on their lines. -/
structure FitsLines (snapshot : Snapshot) : Prop where
  version : '\n' ∉ snapshot.version.toList ∧ Text.trim snapshot.version = snapshot.version
  name : ∀ (name input : String), snapshot.entries[name]? = some input →
    name ≠ "" ∧ Text.trim name = name ∧ name.startsWith '#' = false ∧ ':' ∉ name.toList ∧
      '\n' ∉ name.toList
  input : ∀ (name input : String), snapshot.entries[name]? = some input →
    input.startsWith '=' = true ∨ (Double.read? input).isSome = true →
      '\n' ∉ input.toList ∧ Text.trim input = input

namespace FitsLines

variable {snapshot : Snapshot}

/-- The tag and the names fit on their lines. -/
theorem namesFit (fits : snapshot.FitsLines) : snapshot.NamesFit :=
  ⟨fits.version, fits.name⟩

/-- What is written as it is entered is a formula or a number, which fits on its line. -/
theorem of_isBare {name input : String} (fits : snapshot.FitsLines)
    (found : snapshot.entries[name]? = some input) (bare : isBare input = true) :
    '\n' ∉ input.toList ∧ Text.trim input = input :=
  fits.input name input found (by simpa [isBare] using bare)

/-- Each formula and each number is over with its first line. -/
theorem oneLined (fits : snapshot.FitsLines) : snapshot.OneLined := by
  -- An input that is written bare has no line feed, so that nothing stands behind one.
  intro name input found bare
  have feedless := (fits.of_isBare found bare).1
  have none : input.toList.dropWhile (· ≠ '\n') = [] :=
    List.dropWhile_eq_nil_iff.mpr (Text.forall_ne feedless)
  rw [OneLine, none]
  exact List.forall_mem_nil _

/-- The text of a snapshot whose parts fit on their lines is read as that snapshot. -/
theorem ofGrid_toGrid (fits : snapshot.FitsLines) : ofGrid snapshot.toGrid = .ok snapshot := by
  -- There are no blanks around a formula or a number that are lost.
  have same : snapshot.entries.map (fun _ input => reread input) = snapshot.entries := by
    apply Std.ExtTreeMap.ext_getElem?
    intro name
    -- Each entry is compared with what is read again in its place.
    rw [Std.ExtTreeMap.getElem?_map]
    cases found : snapshot.entries[name]? with
    | none => rfl
    | some input =>
      rw [Option.map_some, reread]
      split
      · rename_i bare
        rw [(fits.of_isBare found bare).2]
      · rfl
  rw [Snapshot.ofGrid_toGrid fits.namesFit fits.oneLined, same]

end FitsLines

end Snapshot

namespace Sheet

variable {settings : Settings} {sheet : Sheet}

/-- What is entered as a text is not written as it is entered. -/
theorem not_bare_of_text {naming : Naming} {input text : String}
    (read : Contents.ofInput naming input = .ok (some (.text text))) :
    ¬(text.startsWith '=' = true ∨ (Double.read? text).isSome = true) := by
  -- An input that is read as a text was neither a number nor a formula.
  rcases Contents.ofInput_cases read with
    ⟨value, -, same⟩ | ⟨spelled, f, -, -, same⟩ | ⟨none, unsigned, same⟩
  · cases same
  · cases same
  · cases same
    rw [none, String.startsWith_char_eq_head?]
    simpa using fun first => unsigned '=' first

/-- The snapshots of a sheet fit on their lines, if its tag does. -/
theorem Reachable.fitsLines (reachable : Reachable settings sheet)
    (feedless : '\n' ∉ settings.version.toList)
    (trimmed : Text.trim settings.version = settings.version) : sheet.snapshot.FitsLines := by
  -- A line feed is blank, and the names and the inputs that are written bare have no blanks.
  have solid : ∀ {cs : List Char}, (∀ c ∈ cs, Text.isBlank c = false) → '\n' ∉ cs := by
    intro cs all member
    exact absurd (all '\n' member) (by decide)
  refine ⟨?_, ?_, ?_⟩
  · rw [reachable.version_snapshot]
    exact ⟨feedless, trimmed⟩
  · intro name input found
    -- A stored name is a cell name, which has letters and digits only.
    obtain ⟨⟨contents, holds⟩, -⟩ := entry_cases found
    have cellName := (reachable.sound.named name contents holds).1
    have legal := isVariable_of_isCellName cellName
    have inside : ∀ c ∈ name.toList, goesOn c = true := fun c => Lexeme.goesOn_of_mem legal
    have foreign : ∀ c, goesOn c = false → c ∉ name.toList := by
      intro c outside member
      rw [inside c member] at outside
      cases outside
    refine ⟨?_, ?_, ?_, foreign ':' (by decide), foreign '\n' (by decide)⟩
    · rintro rfl
      cases legal
    · exact Text.trim_eq_self_iff.mpr (.of_forall fun c member => isBlank_of_goesOn (inside c member))
    · rw [String.startsWith_char_eq_head?, beq_eq_false_iff_ne]
      exact fun marked => foreign '#' (by decide) (List.mem_of_head? marked)
  · intro name input found bare
    obtain ⟨-, rfl | ⟨other, contents, holds, rfl⟩⟩ := entry_cases found
    · decide
    · -- What is written as it is entered is no text, and nothing else has blanks.
      obtain ⟨-, entered, -, read⟩ := reachable.exists_entered holds
      have blankless : ∀ c ∈ contents.input.toList, Text.isBlank c = false := by
        refine fun c => Contents.isBlank_of_mem_input read ?_
        rintro text rfl
        exact not_bare_of_text read bare
      exact ⟨solid blankless, Text.trim_eq_self_iff.mpr (.of_forall blankless)⟩

end Sheet

namespace Snapshot

/-- The text of every snapshot whose parts fit on their lines is read as that snapshot, and the
snapshot of every sheet is such a one if its tag fits on a line. -/
theorem grid_reads_back :
    (∀ snapshot : Snapshot, snapshot.FitsLines → ofGrid snapshot.toGrid = .ok snapshot) ∧
    ∀ settings sheet, Sheet.Reachable settings sheet → '\n' ∉ settings.version.toList →
      Text.trim settings.version = settings.version → sheet.snapshot.FitsLines := by
  -- That snapshots fit is all that the sheets have to show.
  constructor
  · exact fun snapshot fits => fits.ofGrid_toGrid
  · exact fun settings sheet reachable feedless trimmed => reachable.fitsLines feedless trimmed

/-- A text with marks, quotes and line feeds is read again, and so is what a sheet keeps. -/
theorem grid_reads_back_awkward :
    let awkward : Snapshot := ⟨"v 1", Std.ExtTreeMap.insert ∅ "A1" " #: \"\\\n\r"⟩
    let sheet := ((Sheet.empty .plain).set "A1" "=B1").2
    awkward.FitsLines ∧ ofGrid awkward.toGrid = .ok awkward ∧
      Sheet.Reachable .plain sheet ∧ '\n' ∉ Settings.plain.version.toList ∧
      Text.trim Settings.plain.version = Settings.plain.version ∧
      sheet.snapshot.FitsLines ∧ ofGrid sheet.snapshot.toGrid = .ok sheet.snapshot := by
  intro awkward sheet
  -- The one entry is written in quotes, with its signs escaped.
  have fits : awkward.FitsLines := by
    have entry : ∀ name input : String, awkward.entries[name]? = some input →
        name = "A1" ∧ input = " #: \"\\\n\r" := by
      intro name input found
      simp only [awkward, Std.ExtTreeMap.getElem?_insert] at found
      split at found
      · rename_i same
        exact ⟨(Std.LawfulEqCmp.eq_of_compare same).symm, (Option.some.inj found).symm⟩
      · simp at found
    refine ⟨by decide +kernel, ?_, ?_⟩
    · intro name input found
      obtain ⟨rfl, rfl⟩ := entry name input found
      decide +kernel
    · -- The input is neither a formula nor a number.
      intro name input found bare
      obtain ⟨rfl, rfl⟩ := entry name input found
      exact absurd bare (by decide +kernel)
  -- A sheet fits by itself if its version tag does.
  have reachable : Sheet.Reachable .plain sheet := .set "A1" "=B1" .empty
  have kept := grid_reads_back.2 .plain sheet reachable (by decide +kernel) (by decide +kernel)
  exact ⟨fits, grid_reads_back.1 awkward fits, reachable, by decide +kernel, by decide +kernel, kept,
    grid_reads_back.1 sheet.snapshot kept⟩

end Snapshot

end Worksheet
