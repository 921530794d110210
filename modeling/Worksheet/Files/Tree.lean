import Std.Data.ExtTreeMap
import Worksheet.Files.Error
import Worksheet.Files.Path

/-! A tree of files and directories as far as it is known, with reading and writing by path. -/

namespace Worksheet

/-- A file with its bytes, or a directory. -/
inductive Node
  | file (bytes : ByteArray)
  | directory

/-- What is known to exist, by the names that lead to it from the root, and the directory in which
relative paths begin. -/
structure FileTree where
  base : List String
  nodes : Std.ExtTreeMap (List String) Node

namespace FileTree

/-- Nothing but the directory in which relative paths begin. -/
def empty (base : List String) : FileTree :=
  ⟨base, ∅⟩

/-- What exists at a location; the base and what it lies in are directories. -/
def node? (tree : FileTree) (location : List String) : Option Node :=
  if location.isPrefixOf tree.base then some .directory else tree.nodes[location]?

/-- Takes one step from a location, which must be a directory. -/
def enter (tree : FileTree) (location : List String) (step : String) :
    Except FileError (List String) :=
  match tree.node? location with
  | none => .error .notFound
  | some (.file _) => .error .notADirectory
  | some .directory =>
    .ok (if step = "." then location
      else if step = ".." then location.dropLast
      else location ++ [step])

/-- The location that a path leads to, through directories that exist. -/
def locate (tree : FileTree) (path : String) : Except FileError (List String) :=
  if path.isEmpty then .error .notFound
  else (Path.names path).foldlM tree.enter (if Path.isAbsolute path then [] else tree.base)

/-- What exists at a path. -/
def find (tree : FileTree) (path : String) : Except FileError Node := do
  let location ← tree.locate path
  match tree.node? location with
  | none => throw .notFound
  | some (.file bytes) =>
    if Path.isDirectoryOnly path then throw .notADirectory else return .file bytes
  | some .directory => return .directory

/-- Whether there is a file or a directory at a path. -/
def contains (tree : FileTree) (path : String) : Bool :=
  (tree.find path).isOk

/-- The bytes of the file at a path. -/
def read (tree : FileTree) (path : String) : Except FileError ByteArray := do
  match ← tree.find path with
  | .file bytes => return bytes
  | .directory => throw .isADirectory

/-- The text of the file at a path. -/
def readText (tree : FileTree) (path : String) : Except FileError String := do
  let bytes ← tree.read path
  match String.fromUTF8? bytes with
  | some text => return text
  | none => throw .invalidUtf8

/-- Puts a node at a location. -/
def insert (tree : FileTree) (location : List String) (node : Node) : FileTree :=
  { tree with nodes := tree.nodes.insert location node }

/-- The tree once a text is written to the file at a path, which may be a new one. -/
def writeText (tree : FileTree) (path text : String) : Except FileError FileTree := do
  let location ← tree.locate path
  match tree.node? location with
  | some .directory => throw .isADirectory
  | some (.file _) => if Path.isDirectoryOnly path then throw .notADirectory
  | none => if Path.isDirectoryOnly path then throw .isADirectory
  return tree.insert location (.file text.toUTF8)

end FileTree

end Worksheet
