import Worksheet.Files.Tree
import Worksheet.Proofs.Steps

/-! What is written to a file is read back from it: a new file blocks no way that led to it. -/

namespace Worksheet.FileTree

/-- Whether the location that a path leads to is the only one at which two trees differ, and the file
there has a text in the second tree. -/
def WritesOnly (before after : FileTree) (path text : String) : Prop :=
  ∃ location, before.locate path = .ok location ∧ after.readText path = .ok text ∧
    after.base = before.base ∧ ∀ other, other ≠ location → after.node? other = before.node? other

variable {tree written : FileTree} {location start next : List String} {path step text : String}
  {bytes : ByteArray} {node : Node}

/-- A node is found where it was put, and everything else where it was. -/
theorem node?_insert (vacant : tree.node? location ≠ some .directory) (other : List String) :
    (tree.insert location node).node? other =
      if location = other then some node else tree.node? other := by
  -- The base and what it lies in are directories, and so the location is none of them.
  have outside : location.isPrefixOf tree.base = false := by
    rw [Bool.eq_false_iff]
    intro inside
    exact vacant (if_pos inside)
  have around : (tree.insert location node).base = tree.base := rfl
  by_cases same : location = other
  · subst same
    rw [if_pos rfl, node?, around, outside, if_neg Bool.false_ne_true]
    exact Std.ExtTreeMap.getElem?_insert_self
  · have elsewhere : (tree.insert location node).nodes[other]? = tree.nodes[other]? := by
      rw [insert, Std.ExtTreeMap.getElem?_insert, if_neg (by simpa using same)]
    rw [if_neg same, node?, node?, around, elsewhere]

/-- A step that could be taken still leads to the same location once a file has been put where no
directory was. -/
theorem enter_insert (vacant : tree.node? location ≠ some .directory)
    (entered : tree.enter start step = .ok next) :
    (tree.insert location (.file bytes)).enter start step = .ok next := by
  -- The step starts at a directory, which is still there.
  have directory : tree.node? start = some .directory := by
    unfold enter at entered
    split at entered
    · cases entered
    · cases entered
    · assumption
  have apart : location ≠ start := by
    rintro rfl
    exact vacant directory
  rw [enter, node?_insert vacant, if_neg apart]
  exact entered

/-- A path still leads to the same location once a file has been put where no directory was. -/
theorem locate_insert (vacant : tree.node? location ≠ some .directory)
    (located : tree.locate path = .ok next) :
    (tree.insert location (.file bytes)).locate path = .ok next := by
  unfold locate at located ⊢
  split at located
  · cases located
  · rename_i nonempty
    rw [if_neg nonempty]
    -- Each step is taken from a directory, and the file is none.
    exact foldlM_mono (fun _ _ _ entered => enter_insert vacant entered) located

/-- A text is written to a location that a path leads to and where there is no directory. -/
theorem writeText_eq_ok (done : tree.writeText path text = .ok written) :
    ∃ location, tree.locate path = .ok location ∧ tree.node? location ≠ some .directory ∧
      Path.isDirectoryOnly path = false ∧ written = tree.insert location (.file text.toUTF8) := by
  obtain ⟨location, located, allowed⟩ := bind_eq_ok.mp done
  refine ⟨location, located, ?_⟩
  dsimp only at allowed
  -- Whatever else is there, a path that can lead to a directory only is refused.
  split at allowed
  · cases allowed
  · -- A file that is there is written over.
    rename_i bytes there
    split at allowed
    · cases allowed
    · rename_i plain
      cases allowed
      exact ⟨by simp [there], by simpa using plain, rfl⟩
  · -- A new file is made.
    rename_i absent
    split at allowed
    · cases allowed
    · rename_i plain
      cases allowed
      exact ⟨by simp [absent], by simpa using plain, rfl⟩

/-- A text that has been written to a file is found there and read back. -/
theorem readText_of_writeText (done : tree.writeText path text = .ok written) :
    written.contains path = true ∧ written.readText path = .ok text := by
  obtain ⟨location, located, vacant, plain, rfl⟩ := writeText_eq_ok done
  -- The path still leads to the location, and the file stands there now.
  have found : (tree.insert location (.file text.toUTF8)).find path = .ok (.file text.toUTF8) := by
    simp [find, locate_insert vacant located, node?_insert vacant, plain, Bind.bind, Except.bind,
      Pure.pure, Except.pure]
  -- What has been encoded is decoded again.
  have decoded : String.fromUTF8? text.toUTF8 = some text := by
    rw [String.fromUTF8?, String.toUTF8_eq_toByteArray, dif_pos text.isValidUTF8]
    rfl
  constructor
  · rw [contains, found]
    rfl
  · rw [readText, read, found]
    dsimp only [Bind.bind, Except.bind, Pure.pure, Except.pure]
    rw [decoded]

/-- Writing a text to a file changes nothing else. -/
theorem writesOnly_of_writeText (done : tree.writeText path text = .ok written) :
    WritesOnly tree written path text := by
  -- A write inserts one node, and every other one is found as before.
  have read := (readText_of_writeText done).2
  obtain ⟨location, located, vacant, -, rfl⟩ := writeText_eq_ok done
  refine ⟨location, located, read, rfl, fun other different => ?_⟩
  rw [node?_insert vacant, if_neg (Ne.symm different)]

end Worksheet.FileTree
