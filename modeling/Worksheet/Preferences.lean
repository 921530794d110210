import Worksheet.Files.Tree
import Worksheet.Sheet.Basic
import Worksheet.Toml.Statement

/-!
Preferences come from a TOML file. Whatever is wrong with the file is a warning, and the standard
preferences hold instead.
-/

namespace Worksheet

/-- The tag that documents carry and the letter case of names. -/
structure Preferences where
  version : String
  nameCase : NameCase
deriving DecidableEq

namespace Preferences

/-- The preferences of whoever states none. -/
def standard : Preferences :=
  ⟨defaultVersion, .preserve⟩

/-- The settings of the sheets that are opened under some preferences. -/
def settings (preferences : Preferences) : Settings :=
  ⟨preferences.nameCase.naming, preferences.version⟩

/-- The word for a letter case. -/
def caseKey : NameCase → String
  | .preserve => "preserve"
  | .upper => "upper"
  | .lower => "lower"

/-- The letter case that a word stands for. -/
def caseOfKey? (key : String) : Option NameCase :=
  [.preserve, .upper, .lower].find? fun nameCase => caseKey nameCase = key

/-- The table that a statement of a preferences file falls into. -/
inductive Table
  | top
  | nameCase
  | oneCase
deriving DecidableEq

/-- What the statements of a preferences file have said so far. -/
structure Draft where
  version : Option String
  nameCase : Option NameCase
  table : Table
  nameCaseOpened : Bool
deriving DecidableEq

namespace Draft

/-- Nothing has been said. -/
def empty : Draft :=
  ⟨none, none, .top, false⟩

/-- Settles the letter case of names, which can be done only once. -/
def choose (draft : Draft) (key : String) : Option Draft :=
  if draft.nameCase.isSome then none
  else (caseOfKey? key).map fun nameCase => { draft with nameCase := some nameCase }

/-- Settles the letter case of names by a value that leaves no table to be opened. -/
def choosePlainly (draft : Draft) (key : String) : Option Draft :=
  (draft.choose key).map ({ · with nameCaseOpened := true })

/-- Takes the header of a table, of which there is one for letter cases and one for each of them. -/
def enter (draft : Draft) : List String → Option Draft
  | ["name_case"] =>
    if draft.nameCaseOpened then none
    else some { draft with table := .nameCase, nameCaseOpened := true }
  | ["name_case", key] => (draft.choose key).map ({ · with table := .oneCase })
  | _ => none

/-- Takes one statement. -/
def step (draft : Draft) : Toml.Statement → Option Draft
  | .header keys => draft.enter keys
  | .assignment keys value =>
    match draft.table, keys, value with
    | .top, ["version"], .text version =>
      if draft.version.isSome then none else some { draft with version := some version }
    | .top, ["name_case"], .text key => draft.choosePlainly key
    | .top, ["name_case"], .choice key => draft.choosePlainly key
    | .top, ["name_case", key], .hollow => draft.choosePlainly key
    | .nameCase, [key], .hollow => draft.choose key
    | _, _, _ => none

/-- What a text states, unless a table of letter cases is left without any. -/
def ofText (text : String) : Option Draft := do
  let draft ← (← Toml.Statement.ofText text).foldlM step empty
  if draft.nameCaseOpened && draft.nameCase.isNone then none else some draft

end Draft

/-- What can be wrong with a preferences file. -/
inductive Issue
  | notFound
  | tooLarge (size : Nat)
  | unreadable (cause : FileError)
  | unparsable
  | emptyVersion
deriving DecidableEq

/-- The largest number of bytes that a preferences file may have. -/
def maxSize : Nat :=
  1048576

/-- The words for what is wrong with the preferences file at a path. -/
def Issue.message (path : String) : Issue → String
  | notFound => s!"Config file not found: {path}"
  | tooLarge size =>
    s!"Refusing to read {path}: file too large ({size} bytes, max {maxSize})"
  | unreadable cause => s!"Failed to read {path}: " ++ cause.message
  | unparsable => s!"Failed to parse {path}"
  | emptyVersion => s!"Ignoring empty version in {path}; using '{defaultVersion}'"

/-- What the file at a path states. -/
def Draft.read (files : FileTree) (path : String) : Except Issue Draft := do
  let bytes ← (files.read path).mapError .unreadable
  if maxSize < bytes.size then throw (.tooLarge bytes.size)
  let text ← (files.readText path).mapError .unreadable
  match ofText text with
  | some draft => return draft
  | none => throw .unparsable

/-- The preferences that a file states, the standard ones where it states none. -/
def ofDraft (draft : Draft) : Preferences × List Issue :=
  -- A version is read without its outer blanks, and then it must not be empty.
  let nameCase := draft.nameCase.getD standard.nameCase
  match draft.version.map Text.trim with
  | none => (⟨standard.version, nameCase⟩, [])
  | some version =>
    if version = "" then (⟨standard.version, nameCase⟩, [.emptyVersion])
    else (⟨version, nameCase⟩, [])

/-- The preferences of a file that exists, and what is wrong with it. -/
def ofFile (files : FileTree) (path : String) : Preferences × List Issue :=
  match Draft.read files path with
  | .ok draft => ofDraft draft
  | .error issue => (standard, [issue])

/-- The preferences of the chosen file, or else of the user's own, which need not exist, with
warnings. -/
def load (files : FileTree) (chosen userFile : Option String) : Preferences × List String :=
  match chosen <|> userFile with
  | none => (standard, [])
  | some path =>
    let (preferences, issues) :=
      if files.contains path then ofFile files path
      else if chosen.isSome then (standard, [.notFound])
      else (standard, [])
    (preferences, issues.map (Issue.message path))

end Preferences

end Worksheet
