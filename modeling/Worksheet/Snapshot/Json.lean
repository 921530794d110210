import Worksheet.Json.Basic
import Worksheet.Json.Quoted
import Worksheet.Snapshot.Basic

/-!
The JSON format of a snapshot: an object with the version tag and an object of cells, each of them an
object with one field.
-/

namespace Worksheet.Snapshot

/-- The names that the field of a cell may have, the first of which is written. -/
inductive InputField
  | contents
  | stringForm
deriving DecidableEq

/-- The spelling of the field of a cell. -/
def InputField.key : InputField → String
  | contents => "contents"
  | stringForm => "stringForm"

/-- The lines of one cell of a document. -/
def cellText (field : InputField) (name input : String) : List Char :=
  "    ".toList ++ Json.quote name ++ ": \x7b\n      ".toList ++ Json.quote field.key ++
    ": ".toList ++ Json.quote input ++ "\n    \x7d".toList

/-- The object of cells of a document, on one line when there are none. -/
def cellsText (fieldOf : String → InputField) (snapshot : Snapshot) : List Char :=
  match snapshot.entries.toList.map fun (name, input) => cellText (fieldOf name) name input with
  | [] => "\x7b\x7d".toList
  | cells => "\x7b\n".toList ++ ",\n".toList.intercalate cells ++ "\n  \x7d".toList

/-- The text of a document, given the field of each cell. -/
def toJsonWith (fieldOf : String → InputField) (snapshot : Snapshot) : String :=
  String.ofList ("\x7b\n  \"version\": ".toList ++ Json.quote snapshot.version ++
    ",\n  \"cells\": ".toList ++ cellsText fieldOf snapshot ++ "\n\x7d\n".toList)

/-- The text of a document. -/
def toJson : Snapshot → String :=
  toJsonWith fun _ => .contents

/-- The value of the one field of an object that has any of some keys. -/
def field? (keys : List String) (fields : List (Option String × Json)) : Option Json :=
  match fields.filter fun (key, _) => key.any keys.contains with
  | [(_, value)] => some value
  | _ => none

/-- Splits an object whose keys all have characters into the values of some fields, given the keys
of each; an array stands for just those values in order. -/
def fields? (keys : List (List String)) : Json → Option (List Json)
  | .object fields =>
    if fields.all fun (key, _) => key.isSome then keys.mapM fun keys => field? keys fields else none
  | .array items => if items.length = keys.length then some items else none
  | _ => none

/-- The input that a value holds for a cell. -/
def inputOfJson (value : Json) : Option String :=
  match fields? [[InputField.contents.key, InputField.stringForm.key]] value with
  | some [input] => input.string?
  | _ => none

/-- The cells that a value holds, of which the last one of a name counts. -/
def entriesOfJson : Json → Option (NameMap String)
  | .object fields =>
    fields.foldlM (fun entries (key, value) => do return entries.insert (← key) (← inputOfJson value))
      ∅
  | _ => none

/-- The snapshot that a value holds. -/
def ofJsonValue (value : Json) : Option Snapshot :=
  match fields? [["version"], ["cells"]] value with
  | some [version, cells] => do return ⟨← version.string?, ← entriesOfJson cells⟩
  | _ => none

/-- Reads the text of a document. -/
def ofJson (text : String) : Except StorageError Snapshot :=
  match Json.ofText text >>= ofJsonValue with
  | some snapshot => .ok snapshot
  | none => .error .json

end Worksheet.Snapshot
