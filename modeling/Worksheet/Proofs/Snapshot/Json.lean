import Worksheet.Proofs.Json.Spelling
import Worksheet.Proofs.Snapshot.Entries
import Worksheet.Snapshot.Json

/-!
The JSON format gives back every snapshot, whichever of its names the field of each cell has. The
texts of a snapshot differ in nothing but these names: each of them is the same text with one hole for
each cell.
-/

namespace Worksheet.Snapshot

open Json (Spells Reader Container)

variable {field : InputField} {name input : String}

/-- The tokens of one cell of a document. -/
def cellTokens (field : InputField) (name input : String) : List Json.Token :=
  [.string (some name), .colon, .openBrace, .string (some field.key), .colon, .string (some input),
    .closeBrace]

/-- The field of a cell in the object of cells. -/
def cellField (field : InputField) (name input : String) : Option String × Json :=
  (some name, .object [(some field.key, .string (some input))])

/-- The lines of a cell spell its tokens. -/
theorem spells_cellText (field : InputField) (name input : String) :
    Spells (cellText field name input) (cellTokens field name input) := by
  -- The text alternates between quoted strings and marks with spaces around them.
  have indent : Spells "    ".toList [] := .marks (by decide)
  have opening : Spells ": \x7b\n      ".toList [.colon, .openBrace] := .marks (by decide)
  have colon : Spells ": ".toList [.colon] := .marks (by decide)
  have closing : Spells "\n    \x7d".toList [.closeBrace] := .marks (by decide)
  exact ((((((indent.append (.quote name)).append opening).append (.quote field.key)).append
    colon).append (.quote input)).append closing)

/-- The tokens of an object of cells. -/
def cellsTokens (cells : List (List Json.Token)) : List Json.Token :=
  .openBrace :: ([.comma].intercalate cells ++ [.closeBrace])

/-- The object of cells spells its tokens. -/
theorem spells_cellsText (fieldOf : String → InputField) (snapshot : Snapshot) :
    Spells (cellsText fieldOf snapshot) (cellsTokens
      (snapshot.entries.toList.map fun entry => cellTokens (fieldOf entry.1) entry.1 entry.2)) := by
  -- The cells stand between braces, with commas between them, and the braces are shut at once if
  -- there are none.
  have comma : Spells ",\n".toList [.comma] := .marks (by decide)
  have separated := comma.intercalate snapshot.entries.toList
    fun entry _ => spells_cellText (fieldOf entry.1) entry.1 entry.2
  have opening : Spells "\x7b\n".toList [.openBrace] := .marks (by decide)
  have closing : Spells "\n  \x7d".toList [.closeBrace] := .marks (by decide)
  unfold cellsText
  split
  · rename_i none
    rw [List.map_eq_nil_iff.mp none]
    exact .marks (by decide)
  · exact (opening.append separated).append closing

/-- The tokens of a document. -/
def documentTokens (version : String) (cells : List (List Json.Token)) : List Json.Token :=
  [.openBrace, .string (some "version"), .colon, .string (some version), .comma,
    .string (some "cells"), .colon] ++ cellsTokens cells ++ [.closeBrace]

/-- The text of a snapshot spells its tokens. -/
theorem ofText_toJsonWith (fieldOf : String → InputField) (snapshot : Snapshot) :
    Json.Token.ofText (toJsonWith fieldOf snapshot) = some (documentTokens snapshot.version
      (snapshot.entries.toList.map fun entry =>
        cellTokens (fieldOf entry.1) entry.1 entry.2)) := by
  -- The parts between tag and cells are marks around a quoted name.
  have opening : Spells "\x7b\n  \"version\": ".toList
      [.openBrace, .string (some "version"), .colon] := by
    have brace : Spells "\x7b\n  ".toList [.openBrace] := .marks (by decide)
    have colon : Spells ": ".toList [.colon] := .marks (by decide)
    have spelled : "\x7b\n  \"version\": ".toList =
        "\x7b\n  ".toList ++ Json.quote "version" ++ ": ".toList := by decide
    rw [spelled]
    have whole := (brace.append (Spells.quote "version")).append colon
    exact whole
  have between : Spells ",\n  \"cells\": ".toList [.comma, .string (some "cells"), .colon] := by
    have comma : Spells ",\n  ".toList [.comma] := .marks (by decide)
    have colon : Spells ": ".toList [.colon] := .marks (by decide)
    have spelled : ",\n  \"cells\": ".toList =
        ",\n  ".toList ++ Json.quote "cells" ++ ": ".toList := by decide
    rw [spelled]
    have whole := (comma.append (Spells.quote "cells")).append colon
    exact whole
  have closing : Spells "\n\x7d\n".toList [.closeBrace] := .marks (by decide)
  -- The text is these parts one behind the other.
  have head := (opening.append (Spells.quote snapshot.version)).append between
  exact ((head.append (spells_cellsText fieldOf snapshot)).append closing).ofText

/-- The tokens of a cell are read as one more field of the object that they stand in. -/
theorem foldlM_cellTokens {fields : List (Option String × Json)} {key : Option String}
    {outer : List Container} {expected : Json.Expected}
    (due : expected = .key ∨ expected = .keyOrClose) (field : InputField) (name input : String) :
    (cellTokens field name input).foldlM Reader.step
        ⟨.object fields key :: outer, expected, none⟩ =
      some ⟨.object (cellField field name input :: fields) none :: outer, .commaOrClose, none⟩ := by
  rcases due with rfl | rfl <;> rfl

/-- The tokens of cells with commas between them are read as that many fields. -/
theorem foldlM_cells {fields : List (Option String × Json)} {key : Option String}
    {outer : List Container} {expected : Json.Expected}
    (due : expected = .key ∨ expected = .keyOrClose) (fieldOf : String → InputField)
    (entry : String × String) (rest : List (String × String)) :
    ([Json.Token.comma].intercalate ((entry :: rest).map fun entry =>
        cellTokens (fieldOf entry.1) entry.1 entry.2)).foldlM Reader.step
        ⟨.object fields key :: outer, expected, none⟩ =
      some ⟨.object (((entry :: rest).map fun entry =>
          cellField (fieldOf entry.1) entry.1 entry.2).reverse ++ fields) none :: outer,
        .commaOrClose, none⟩ := by
  induction rest generalizing entry fields key expected with
  | nil => simp [foldlM_cellTokens due]
  | cons next tail ih =>
    rw [List.map_cons, List.map_cons, List.intercalate_cons_cons, List.append_assoc,
      List.foldlM_append, foldlM_cellTokens due]
    -- The comma asks for the key of the next cell.
    exact (ih (Or.inl rfl) next).trans (by simp)

/-- The tokens of the cells of a document are read as an object with that many fields. -/
theorem foldlM_cellsTokens {outer : List Container} (fieldOf : String → InputField)
    (entries : List (String × String)) :
    (cellsTokens (entries.map fun entry =>
        cellTokens (fieldOf entry.1) entry.1 entry.2)).foldlM Reader.step ⟨outer, .value, none⟩ =
      some (Reader.accept (.object
        (entries.map fun entry => cellField (fieldOf entry.1) entry.1 entry.2)) outer) := by
  cases entries with
  | nil => rfl
  | cons entry rest =>
    -- One brace opens an object without fields, and the other one closes it with all of them.
    have opened : Reader.step ⟨outer, .value, none⟩ .openBrace =
        some ⟨.object [] none :: outer, .keyOrClose, none⟩ := rfl
    have closed : ∀ fields, Reader.step ⟨.object fields none :: outer, .commaOrClose, none⟩
        .closeBrace = some (Reader.accept (.object fields.reverse) outer) := fun _ => rfl
    rw [cellsTokens, List.foldlM_cons, opened, Option.bind_eq_bind, Option.bind_some,
      List.foldlM_append, foldlM_cells (Or.inr rfl), Option.bind_eq_bind, Option.bind_some,
      List.foldlM_cons, closed, List.append_nil, List.reverse_reverse]
    rfl

/-- The tokens of a document are read as an object of the tag and the cells. -/
theorem ofTokens_documentTokens (fieldOf : String → InputField) (version : String)
    (entries : List (String × String)) :
    Json.ofTokens (documentTokens version
      (entries.map fun entry => cellTokens (fieldOf entry.1) entry.1 entry.2)) =
    some (.object [(some "version", .string (some version)), (some "cells", .object
      (entries.map fun entry => cellField (fieldOf entry.1) entry.1 entry.2))]) := by
  -- The reader is evaluated up to the cells and behind them, whatever they are.
  have begun : List.foldlM Reader.step .start [.openBrace, .string (some "version"), .colon,
      .string (some version), .comma, .string (some "cells"), .colon] =
    some ⟨[.object [(some "version", .string (some version))] (some "cells")], .value, none⟩ := rfl
  rw [Json.ofTokens, documentTokens, List.foldlM_append, List.foldlM_append, begun]
  simp only [Option.bind_eq_bind, Option.bind_some, foldlM_cellsTokens]
  rfl

/-- A cell is read from its field, whichever name that has. -/
theorem inputOfJson_cellField (field : InputField) (name input : String) :
    inputOfJson (cellField field name input).2 = some input := by
  cases field <;> rfl

/-- Parts that are each stored as an entry are stored one after the other. -/
theorem foldlM_insert {α : Type} {part : String × String → α}
    {keep : NameMap String → α → Option (NameMap String)}
    (keeps : ∀ entries entry, keep entries (part entry) = some (entries.insert entry.1 entry.2))
    (entries : List (String × String)) (before : NameMap String) :
    (entries.map part).foldlM keep before =
      some (entries.foldl (fun entries entry => entries.insert entry.1 entry.2) before) := by
  -- No step of the run fails.
  rw [List.foldlM_map, funext fun entries => funext (keeps entries)]
  exact List.foldlM_pure

/-- The cells of a document are those of the snapshot. -/
theorem entriesOfJson_cells (fieldOf : String → InputField) (snapshot : Snapshot) :
    entriesOfJson (.object (snapshot.entries.toList.map fun entry =>
      cellField (fieldOf entry.1) entry.1 entry.2)) = some snapshot.entries := by
  rw [entriesOfJson, foldlM_insert, foldl_insert_toList]
  -- Each field has a key and an object with the one field of the input.
  intro entries entry
  have input := inputOfJson_cellField (fieldOf entry.1) entry.1 entry.2
  dsimp only [cellField] at input ⊢
  rw [input]
  rfl

/-- The value that the text of a snapshot spells. -/
theorem ofText_toJsonWith_object (fieldOf : String → InputField) (snapshot : Snapshot) :
    Json.ofText (toJsonWith fieldOf snapshot) = some (.object
      [(some "version", .string (some snapshot.version)), (some "cells", .object
        (snapshot.entries.toList.map fun entry =>
          cellField (fieldOf entry.1) entry.1 entry.2))]) := by
  -- The text is spelled as tokens, and these are read as the document.
  rw [Json.ofText, ofText_toJsonWith, Option.bind_eq_bind, Option.bind_some,
    ofTokens_documentTokens]

/-- Every snapshot is read from its text, whichever of its names the field of each cell has. -/
theorem ofJson_toJsonWith (fieldOf : String → InputField) (snapshot : Snapshot) :
    ofJson (toJsonWith fieldOf snapshot) = .ok snapshot := by
  -- Both fields are there, each once, and no key lacks characters.
  have fields : ∀ version cells : Json,
      fields? [["version"], ["cells"]]
        (.object [(some "version", version), (some "cells", cells)]) = some [version, cells] :=
    fun _ _ => rfl
  have read : ofJsonValue (.object [(some "version", .string (some snapshot.version)),
      (some "cells", .object (snapshot.entries.toList.map fun entry =>
        cellField (fieldOf entry.1) entry.1 entry.2))]) = some snapshot := by
    simp only [ofJsonValue, fields, entriesOfJson_cells]
    rfl
  rw [ofJson, ofText_toJsonWith_object, Option.bind_eq_bind, Option.bind_some, read]

/-- Texts with a separator between them, each with a hole in it, are what stands before each hole,
with the hole behind it, and what stands behind the last one. -/
theorem exists_holes {α : Type} (separator : List Char) (front back : α → List Char) (items : List α)
    (opening : List Char) : ∃ (parts : List (α × List Char)) (last : List Char),
      parts.map Prod.fst = items ∧ (∀ part ∈ parts, front part.1 <:+ part.2) ∧
      ∀ hole : α → List Char,
        opening ++ separator.intercalate
            (items.map fun item => front item ++ hole item ++ back item) =
          (parts.flatMap fun part => part.2 ++ hole part.1) ++ last := by
  -- The first hole is filled behind its front, and the others by induction, with what stands between
  -- carried along.
  induction items generalizing opening with
  | nil => exact ⟨[], opening, rfl, by simp, by simp⟩
  | cons item rest ih =>
    cases rest with
    | nil =>
      refine ⟨[(item, opening ++ front item)], back item, rfl, ?_, by simp⟩
      exact List.forall_mem_singleton.mpr (List.suffix_append _ _)
    | cons next others =>
      -- What stands behind the hole and the separator belong to the part of the next text.
      obtain ⟨parts, last, listed, fronted, filled⟩ := ih (back item ++ separator)
      refine ⟨(item, opening ++ front item) :: parts, last, by rw [List.map_cons, listed], ?_, ?_⟩
      · exact List.forall_mem_cons.mpr ⟨List.suffix_append _ _, fronted⟩
      · intro hole
        have behind := filled hole
        rw [List.map_cons] at behind ⊢
        rw [List.map_cons, List.intercalate_cons_cons, List.flatMap_cons]
        simp only [List.append_assoc] at behind ⊢
        rw [behind]

/-- The lines of a cell before the name of its field. -/
def cellFront (name : String) : List Char :=
  "    ".toList ++ Json.quote name ++ ": \x7b\n      ".toList

/-- The lines of a cell behind the name of its field. -/
def cellBack (input : String) : List Char :=
  ": ".toList ++ Json.quote input ++ "\n    \x7d".toList

/-- The lines of a cell are those around the name of its field. -/
theorem cellText_eq (field : InputField) (name input : String) :
    cellText field name input = cellFront name ++ Json.quote field.key ++ cellBack input := by
  -- The field name is what stands between the two parts.
  delta cellText cellFront cellBack
  rw [← List.append_assoc, ← List.append_assoc]

/-- An object of cells, whatever stands around it, is fixed but for the names of the fields, of which
there is one for each cell. -/
theorem exists_cellsText (snapshot : Snapshot) (opening closing : List Char) :
    ∃ (parts : List ((String × String) × List Char)) (last : List Char),
      parts.map Prod.fst = snapshot.entries.toList ∧
      (∀ part ∈ parts, cellFront part.1.1 <:+ part.2) ∧
      ∀ fieldOf : String → InputField, opening ++ cellsText fieldOf snapshot ++ closing =
        (parts.flatMap fun part => part.2 ++ Json.quote (fieldOf part.1.1).key) ++ last := by
  -- The holes are where the fields are named, between the front and the back of each cell.
  obtain ⟨parts, last, listed, fronted, filled⟩ := exists_holes ",\n".toList
    (fun entry => cellFront entry.1) (fun entry => cellBack entry.2) snapshot.entries.toList
    (opening ++ "\x7b\n".toList)
  cases entries : snapshot.entries.toList with
  | nil =>
    -- Without cells there is no field to name.
    refine ⟨[], opening ++ "\x7b\x7d".toList ++ closing, rfl, by simp, fun fieldOf => ?_⟩
    delta cellsText
    rw [entries]
    rfl
  | cons entry rest =>
    rw [entries] at listed filled
    refine ⟨parts, last ++ ("\n  \x7d".toList ++ closing), listed, fronted, fun fieldOf => ?_⟩
    -- Behind the last cell stand the closing brace and what follows.
    have whole := filled fun entry => Json.quote (fieldOf entry.1).key
    simp only [← cellText_eq] at whole
    rw [← List.append_assoc, ← whole]
    delta cellsText
    rw [entries]
    simp only [List.map_cons, List.append_assoc]

/-- The text of a snapshot is fixed but for the names of the fields, of which there is one for each
cell. -/
theorem exists_toJsonWith (snapshot : Snapshot) :
    ∃ (parts : List ((String × String) × List Char)) (last : List Char),
      parts.map Prod.fst = snapshot.entries.toList ∧
      (∀ part ∈ parts, cellFront part.1.1 <:+ part.2) ∧
      ∀ fieldOf : String → InputField, (toJsonWith fieldOf snapshot).toList =
        (parts.flatMap fun part => part.2 ++ Json.quote (fieldOf part.1.1).key) ++ last := by
  -- The holes are those of the cells, with the head of the document before the first part.
  obtain ⟨parts, last, listed, fronted, filled⟩ := exists_cellsText snapshot
    ("\x7b\n  \"version\": ".toList ++ Json.quote snapshot.version ++
      ",\n  \"cells\": ".toList) "\n\x7d\n".toList
  refine ⟨parts, last, listed, fronted, fun fieldOf => ?_⟩
  delta toJsonWith
  rw [String.toList_ofList]
  exact filled fieldOf

/-- The text of every snapshot is a JSON object of its tag and of its cells, in order and each of them
an object with the one field of its input, and it is read as that snapshot. So is every text in which
the fields of any of the cells have their other name instead. -/
theorem json_reads_back (snapshot : Snapshot) :
    Json.ofText snapshot.toJson = some (.object
      [(some "version", .string (some snapshot.version)), (some "cells", .object
        (snapshot.entries.toList.map fun entry =>
          (some entry.1, .object [(some "contents", .string (some entry.2))])))]) ∧
    ofJson snapshot.toJson = .ok snapshot ∧
    ∃ (parts : List ((String × String) × List Char)) (last : List Char),
      parts.map Prod.fst = snapshot.entries.toList ∧
      (∀ part ∈ parts, cellFront part.1.1 <:+ part.2) ∧
      snapshot.toJson.toList = (parts.flatMap fun part => part.2 ++ Json.quote "contents") ++ last ∧
      ∀ renamed : String → Bool, ofJson (String.ofList ((parts.flatMap fun part =>
        part.2 ++ Json.quote (if renamed part.1.1 then "stringForm" else "contents")) ++ last)) =
          .ok snapshot := by
  -- Whichever field is named for a cell, the text is made of the same parts.
  obtain ⟨parts, last, listed, fronted, filled⟩ := exists_toJsonWith snapshot
  refine ⟨ofText_toJsonWith_object _ _, ofJson_toJsonWith _ _, parts, last, listed, fronted,
    filled _, fun renamed => ?_⟩
  -- The other name is that of the other field.
  let fieldOf : String → InputField := fun name =>
    if renamed name then .stringForm else .contents
  have keys : ∀ name, (fieldOf name).key = if renamed name then "stringForm" else "contents" := by
    intro name
    simp only [fieldOf]
    split <;> rfl
  have text := filled fieldOf
  simp only [keys] at text
  rw [← text, String.ofList_toList]
  exact ofJson_toJsonWith fieldOf snapshot

end Worksheet.Snapshot
