import Worksheet.Proofs.Sheet.Inputs
import Worksheet.Snapshot.Basic

/-! What a snapshot keeps: one entry for each stored cell whose name still stands for a cell. -/

namespace Worksheet

/-- The entries of a map, stored one after the other, make up the map. -/
theorem foldl_insert_toList {α : Type} (map : NameMap α) :
    map.toList.foldl (fun entries entry => entries.insert entry.1 entry.2) ∅ = map := by
  rw [← Std.ExtTreeMap.insertMany_list_eq_foldl]
  apply Std.ExtTreeMap.ext_getElem?
  intro key
  cases found : map[key]? with
  | none =>
    -- Nothing is stored under a key that the map does not have.
    have absent : (map.toList.map Prod.fst).contains key = false := by
      simpa [Std.ExtTreeMap.map_fst_toList_eq_keys] using found
    rw [Std.ExtTreeMap.getElem?_insertMany_list_of_contains_eq_false absent]
    simp
  | some value =>
    -- Each key is stored once, and so no later entry takes its place.
    have member := Std.ExtTreeMap.mem_toList_iff_getElem?_eq_some.mpr found
    exact Std.ExtTreeMap.getElem?_insertMany_list_of_mem Std.ReflCmp.compare_self
      Std.ExtTreeMap.distinct_keys_toList member

/-- An entry that may be stored whenever its name is come by is stored if the name is come by. -/
theorem getElem?_foldl {key : String} {keep : NameMap String → String → NameMap String}
    (entry : Option String)
    (keeps : ∀ entries name, (keep entries name)[key]? =
      if name = key then entry.or entries[key]? else entries[key]?)
    (names : List String) (entries : NameMap String) :
    (names.foldl keep entries)[key]? = (if key ∈ names then entry else none).or entries[key]? := by
  induction names generalizing entries with
  | nil => simp
  | cons name rest ih =>
    rw [List.foldl_cons, ih, keeps]
    -- Coming by the name once more stores the same entry.
    by_cases same : name = key
    · by_cases later : key ∈ rest <;> cases entry <;> simp [same, later]
    · simp [same, Ne.symm same]

namespace Sheet

variable {settings : Settings} {sheet : Sheet} {key input : String}

/-- A snapshot has an entry for each stored name that stands for a cell, and it is the input of the
contents there. -/
theorem getElem?_snapshot (sheet : Sheet) (key : String) : sheet.snapshot.entries[key]? =
    if key ∈ sheet.cells then (sheet.contents key).toOption.map Contents.input else none := by
  rw [snapshot]
  dsimp only
  rw [getElem?_foldl ((sheet.contents key).toOption.map Contents.input)]
  · simp [names]
  · -- A name adds an entry under itself and under no other key.
    intro entries name
    by_cases same : name = key
    · subst same
      cases shown : sheet.contents name <;> simp [Except.toOption]
    · cases shown : sheet.contents name <;> simp [same, Std.ExtTreeMap.getElem?_insert]

/-- A name that stands for a cell is shown with the contents there, or with an empty text. -/
theorem contents_of_named {name : String} (named : sheet.cellName? name = some key) :
    sheet.contents name = .ok ((sheet.stored? key).getD (.text "")) := by
  -- The name is allowed, and so the stored contents are shown, or an empty text.
  have answer : sheet.cellName name = .ok key := by
    rw [cellName, named]
  rw [contents, answer]
  rfl

/-- The contents that a name is shown with are stored, or they are the empty text. -/
theorem contents_cases {contents : Contents} (shown : sheet.contents key = .ok contents) :
    contents = .text "" ∨ ∃ name, sheet.stored? name = some contents := by
  -- A name that is refused shows nothing.
  cases named : sheet.cellName? key with
  | none =>
    rw [Sheet.contents, cellName, named] at shown
    cases shown
  | some name =>
    have same := Except.ok.inj ((contents_of_named named).symm.trans shown)
    -- An empty cell shows the empty text.
    cases holds : sheet.stored? name with
    | none =>
      rw [holds] at same
      exact Or.inl same.symm
    | some stored =>
      rw [holds] at same
      exact Or.inr ⟨name, holds.trans (congrArg some same)⟩

/-- An entry of a snapshot is stored under a name of a cell and has the input of stored contents,
unless it is empty. -/
theorem entry_cases (found : sheet.snapshot.entries[key]? = some input) :
    (∃ contents, sheet.stored? key = some contents) ∧
      (input = "" ∨ ∃ name contents, sheet.stored? name = some contents ∧ input = contents.input) := by
  rw [getElem?_snapshot] at found
  split at found
  · -- There is an entry wherever a cell is stored.
    rename_i stored
    obtain ⟨cell, holds⟩ :=
      Option.isSome_iff_exists.mp (Std.ExtTreeMap.isSome_getElem?_iff_mem.mpr stored)
    obtain ⟨contents, shown, rfl⟩ := Option.map_eq_some_iff.mp found
    refine ⟨⟨cell.contents, stored?_of_found holds⟩, ?_⟩
    -- The name is looked up as any name is, and that may lead to another cell.
    have shown : sheet.contents key = .ok contents := by
      cases answer : sheet.contents key with
      | error error => simp [answer, Except.toOption] at shown
      | ok other => simpa [answer, Except.toOption] using shown
    rcases contents_cases shown with rfl | ⟨name, elsewhere⟩
    · exact Or.inl rfl
    · exact Or.inr ⟨name, contents, elsewhere, rfl⟩
  · cases found

/-- A snapshot carries the tag of the settings that the sheet was made with. -/
theorem Reachable.version_snapshot (reachable : Reachable settings sheet) :
    sheet.snapshot.version = settings.version :=
  congrArg Settings.version reachable.settings_eq

/-- Under a stable normalization a snapshot has the input of each stored cell and nothing else. -/
theorem Reachable.getElem?_snapshot (reachable : Reachable settings sheet)
    (stable : settings.naming.Stable) (key : String) :
    sheet.snapshot.entries[key]? = (sheet.stored? key).map Contents.input := by
  rw [Sheet.getElem?_snapshot]
  cases holds : sheet.stored? key with
  | none =>
    -- Where nothing is stored there is no entry.
    rw [if_neg]
    · rfl
    · simpa [stored?] using holds
  | some contents =>
    -- The name stands for the cell that it is stored under.
    have shown : sheet.contents key = .ok contents := by
      rw [contents_of_named (reachable.cellName?_of_stored? stable holds), holds, Option.getD_some]
    rw [if_pos, shown]
    · rfl
    · have found : sheet.cells[key]?.isSome = true := by
        rw [← Option.isSome_map (f := Cell.contents)]
        exact Option.isSome_of_eq_some holds
      exact Std.ExtTreeMap.isSome_getElem?_iff_mem.mp found

end Sheet

end Worksheet
