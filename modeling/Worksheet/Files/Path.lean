import Worksheet.Text.Split

/-! Paths: the names they pass through, and the document format that the last one chooses. -/

namespace Worksheet

namespace Path

/-- The names between the slashes of a path. -/
def names (path : String) : List String :=
  ((Text.split '/' path.toList).map String.ofList).filter (· ≠ "")

/-- The names that a path passes through, staying in place left out. -/
def steps (path : String) : List String :=
  (names path).filter (· ≠ ".")

/-- Whether a path begins at the root. -/
def isAbsolute (path : String) : Bool :=
  path.startsWith '/'

/-- Whether a path can lead to a directory only, as its last slash says. -/
def isDirectoryOnly (path : String) : Bool :=
  path.endsWith '/'

/-- The characters behind the last dot of a name, unless there is nothing before the dot. -/
def extension? (name : String) : Option (List Char) :=
  let backwards := name.toList.reverse
  match backwards.dropWhile (· ≠ '.') with
  | '.' :: _ :: _ => some (backwards.takeWhile (· ≠ '.')).reverse
  | _ => none

end Path

/-- The formats of documents. -/
inductive Format
  | json
  | grid
deriving DecidableEq

/-- The format of a document at a path, which is JSON unless the extension says otherwise. -/
def Format.ofPath (path : String) : Format :=
  match (Path.steps path).getLast? with
  | some ".." => .json
  | some name =>
    if (Path.extension? name).map (·.map Char.toLower) = some "grd".toList then .grid else .json
  | none => .json

end Worksheet
