import Worksheet.CommandLine.Run

/-! The program: it reads the files that its arguments name, runs on them, and writes what changed. -/

namespace Worksheet.Program

/-- What exists at a path on disk; what can be opened but not read is a directory. -/
def probe (path : String) : IO (Option Node) := do
  match ← (IO.FS.Handle.mk path .read).toBaseIO with
  | .error _ => return none
  | .ok handle =>
    match ← handle.readBinToEnd.toBaseIO with
    | .error _ => return some .directory
    | .ok bytes => return some (.file bytes)

/-- The paths that lead step by step to a path, itself included. -/
def leadingPaths (path : String) : List String :=
  let start := if Path.isAbsolute path then "/" else ""
  let steps := Path.steps path
  (List.range steps.length).map fun n => start ++ "/".intercalate (steps.take (n + 1))

/-- The tree with what exists on disk along a path. -/
def look (tree : FileTree) (path : String) : IO FileTree :=
  (leadingPaths path).foldlM (fun tree path => do
    match tree.locate path, ← probe path with
    | .ok location, some node => return tree.insert location node
    | _, _ => return tree) tree

/-- The path of the user's own preferences. -/
def userFile : IO (Option String) := do
  let stated := (← IO.getEnv "XDG_CONFIG_HOME").filter Path.isAbsolute
  let folder := stated <|> (← IO.getEnv "HOME").map (· ++ "/.config")
  return folder.map (· ++ "/cellgraph/config.toml")

/-- The paths that some arguments name. -/
def namedPaths (arguments : List String) : List String :=
  match CommandLine.Options.ofArguments arguments with
  | .ok options => options.file.toList ++ options.output.toList ++ options.config.toList
  | .error _ => []

/-- Writes what an outcome has at a path, unless that is what there was. -/
def writeBack (files : FileTree) (outcome : CommandLine.Outcome) (path : String) : IO Unit :=
  match outcome.files.read path with
  | .ok bytes =>
    let before := (files.read path).toOption.map ByteArray.data
    if before = some bytes.data then return () else IO.FS.writeBinFile path bytes
  | .error _ => return ()

/-- Runs on the files that some arguments name, and returns the exit code. -/
def run (arguments : List String) : IO UInt32 := do
  let userFile ← userFile
  let named := namedPaths arguments
  let start := FileTree.empty (Path.steps (toString (← IO.currentDir)))
  let files ← (named ++ userFile.toList).foldlM look start
  let outcome := CommandLine.execute arguments userFile files
  outcome.output.forM IO.println
  outcome.messages.forM IO.eprintln
  named.forM (writeBack files outcome)
  return outcome.code.toUInt32

end Worksheet.Program

/-- The entry point of the program. -/
def main (arguments : List String) : IO UInt32 :=
  Worksheet.Program.run arguments
