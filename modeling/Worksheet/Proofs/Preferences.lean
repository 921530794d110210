import Worksheet.Preferences
import Worksheet.Proofs.Naming
import Worksheet.Proofs.Text.Runs

/-! What every preferences file leads to: a tag that is not empty and has no blank at either end, and a
letter case, which is a stable normalization. -/

namespace Worksheet.Preferences

/-- Whether a tag is one that preferences can have. -/
def IsTag (version : String) : Prop :=
  version ≠ "" ∧ Text.trim version = version

/-- The standard tag is one. -/
theorem isTag_standard : IsTag standard.version := by
  constructor <;> decide +kernel

/-- The tag that a file states is trimmed, and an empty one is replaced. -/
theorem isTag_ofDraft (draft : Draft) : IsTag (ofDraft draft).1.version := by
  unfold ofDraft
  dsimp only
  split
  · exact isTag_standard
  · rename_i version stated
    split
    · exact isTag_standard
    · -- The tag that is not empty is the trim of the one that is stated.
      rename_i nonempty
      refine ⟨nonempty, ?_⟩
      obtain ⟨untrimmed, -, rfl⟩ := Option.map_eq_some_iff.mp stated
      rw [Text.trim_eq_self_iff, Text.trim, String.toList_ofList]
      exact Text.trimmed_trimBlanks _

/-- Whatever the files hold, the tag of the loaded preferences is one. -/
theorem isTag_load (files : FileTree) (chosen userFile : Option String) :
    IsTag (load files chosen userFile).1.version := by
  -- A file that cannot be read or parsed leaves the standard preferences.
  have ofFile : ∀ path, IsTag (ofFile files path).1.version := by
    intro path
    unfold Preferences.ofFile
    split
    · exact isTag_ofDraft _
    · exact isTag_standard
  -- The chosen file is looked for first, then the one of the user.
  unfold load
  split
  · exact isTag_standard
  · dsimp only
    split
    · exact ofFile _
    · split <;> exact isTag_standard

/-- A document carries the tag of the preferences. -/
theorem version_settings (preferences : Preferences) :
    preferences.settings.version = preferences.version :=
  rfl

/-- The names of a sheet under any preferences are normalized for good. -/
theorem stable_settings (preferences : Preferences) : preferences.settings.naming.Stable :=
  preferences.nameCase.stable fun _ => true

end Worksheet.Preferences
