import Worksheet.CommandLine.Options
import Worksheet.Proofs.Steps

/-!
What arguments ask for: an option keeps the last value that it is given, the edits are all kept in
order, and at most one argument names a document.
-/

namespace Worksheet.CommandLine

/-- What stands on a command line: an option with its value or without the value that it needs, an
option that stands alone, or the name of a document. -/
inductive Item
  | valued (option : Valued) (value : String)
  | missing (option : Valued)
  | switch (option : Switch)
  | file (argument : String)
deriving DecidableEq

namespace Item

/-- The value that an item gives to an option. -/
@[simp] def value? (wanted : Valued) : Item → Option String
  | valued option value => if option = wanted then some value else none
  | _ => none

/-- The name of a document. -/
@[simp] def file? : Item → Option String
  | file argument => some argument
  | _ => none

/-- Whether nothing is wrong with an item: an option has its value, an edit has an equals sign, and
the name of a document does not look like an option. -/
@[simp] def isLegal : Item → Bool
  | valued .edit value => (Options.edit? value).isSome
  | valued _ _ => true
  | missing _ => false
  | switch _ => true
  | file argument => !argument.startsWith '-'

end Item

/-- What stands on a command line, in order. -/
def items : List String → List Item
  | [] => []
  | argument :: rest =>
    match Valued.ofSpelling? argument, Switch.ofSpelling? argument, rest with
    | some option, _, value :: rest => .valued option value :: items rest
    | some option, _, [] => [.missing option]
    | none, some option, rest => .switch option :: items rest
    | none, none, rest => .file argument :: items rest

/-- Whether nothing is wrong with a command line: with none of its items, and it names one document at
most. -/
structure Legal (line : List Item) : Prop where
  items : ∀ item ∈ line, item.isLegal = true
  files : (line.filterMap Item.file?).length ≤ 1

variable {line rest : List Item} {item : Item}

/-- Nothing is wrong with an empty command line. -/
theorem Legal.nil : Legal [] :=
  ⟨fun item member => absurd member List.not_mem_nil, by simp⟩

/-- Nothing is wrong with the beginning of a command line with nothing wrong. -/
theorem Legal.left (legal : Legal (line ++ rest)) : Legal line := by
  -- Fewer items are no more files.
  refine ⟨fun item member => legal.items item (List.mem_append_left rest member), ?_⟩
  have few := legal.files
  rw [List.filterMap_append, List.length_append] at few
  omega

namespace Options

/-- What a command line asks for. -/
def ofItems (line : List Item) : Options where
  file := (line.filterMap Item.file?).head?
  edits := (line.filterMap (Item.value? .edit)).filterMap edit?
  command := (line.filterMap (Item.value? .command)).getLast?
  print := decide (.switch .print ∈ line)
  output := (line.filterMap (Item.value? .output)).getLast?
  config := (line.filterMap (Item.value? .config)).getLast?
  noConfig := decide (.switch .noConfig ∈ line)

/-- Takes one item. -/
def takeItem (options : Options) : Item → Except UsageError Options
  | .valued option value => options.take value option
  | .missing option => .error (.missingValue option)
  | .switch option => .ok (options.switch option)
  | .file argument => options.takeFile argument

variable {options : Options} {arguments : List String}

/-- Arguments are taken as the items that they are. -/
theorem takeAll_eq (options : Options) (arguments : List String) :
    options.takeAll arguments = (items arguments).foldlM takeItem options := by
  -- Both read the arguments in the same way and stop where an item is refused.
  fun_induction items arguments generalizing options with
  | case1 => rfl
  | case2 argument option value rest valued ih =>
    rw [takeAll.eq_def, List.foldlM_cons, takeItem]
    simp only [valued]
    -- A value that is refused ends both with the same error.
    cases options.take value option with
    | error error => rfl
    | ok after => exact ih after
  -- An option without its value is refused.
  | case3 argument option valued =>
    rw [takeAll.eq_def]
    simp only [valued]
    rfl
  -- A switch is never refused.
  | case4 argument option rest alone notValued ih =>
    rw [takeAll.eq_def, List.foldlM_cons, takeItem]
    simp only [notValued, alone]
    exact ih _
  | case5 argument rest notAlone notValued ih =>
    rw [takeAll.eq_def, List.foldlM_cons, takeItem]
    simp only [notValued, notAlone]
    cases options.takeFile argument with
    | error error => rfl
    | ok after => exact ih after

/-- A command line with nothing wrong goes on in this way behind a legal item that names no second
document. -/
theorem legal_concat_iff (legal : Legal line) : Legal (line ++ [item]) ↔
    item.isLegal = true ∧ (item.file?.isSome = true → (ofItems line).file = none) := by
  -- The document that is taken is the first item that names one.
  have named : (ofItems line).file = none ↔ (line.filterMap Item.file?).length = 0 := by
    rw [ofItems, List.head?_eq_none_iff, List.length_eq_zero_iff]
  have count : ((line ++ [item]).filterMap Item.file?).length =
      (line.filterMap Item.file?).length + item.file?.toList.length := by
    cases item <;> simp
  rw [named]
  constructor
  · -- A second document would be one too many to count.
    intro behind
    refine ⟨behind.items item (by simp), fun names => ?_⟩
    obtain ⟨argument, isFile⟩ := Option.isSome_iff_exists.mp names
    have few := behind.files
    rw [count, isFile, Option.toList_some, List.length_singleton] at few
    omega
  · -- All items before the last one are legal already.
    rintro ⟨itemLegal, first⟩
    refine ⟨?_, ?_⟩
    · rintro other member
      rcases List.mem_append.mp member with before | last
      · exact legal.items other before
      · rwa [List.mem_singleton.mp last]
    · rw [count]
      cases names : item.file? with
      | none => simpa using legal.files
      | some argument => simp [first (by rw [names]; rfl)]

/-- Behind a command line with nothing wrong an item is taken exactly if there is nothing wrong with it
either, and then the options are what the whole line asks for. -/
theorem takeItem_eq_ok_iff (legal : Legal line) {after : Options} :
    (ofItems line).takeItem item = .ok after ↔
      Legal (line ++ [item]) ∧ after = ofItems (line ++ [item]) := by
  rw [legal_concat_iff legal]
  -- A value counts from its item on, and of all values only an edit can be refused.
  cases item with
  | valued option value =>
    cases option with
    | edit =>
      rw [takeItem, take]
      cases read : edit? value with
      | none => simp [read]
      | some edit => simp [read, ofItems, eq_comm]
    | _ => simp [takeItem, take, ofItems, eq_comm]
  | missing option => simp [takeItem]
  | switch option =>
    cases option <;>
      simp [takeItem, Options.switch, ofItems, eq_comm, List.filterMap_cons]
  | file argument =>
    -- The name of a document is refused if it looks like an option or is not the first one.
    rw [takeItem, takeFile]
    cases signed : argument.startsWith '-' with
    | true => simp [signed]
    | false =>
      -- A second document is refused.
      cases known : (ofItems line).file with
      | some first => simp
      | none =>
        have others : line.filterMap Item.file? = [] := List.head?_eq_none_iff.mp known
        simp [signed, ofItems, others, eq_comm, List.filterMap_cons]

/-- The rest of a command line is taken exactly if nothing is wrong with the whole. -/
theorem foldlM_takeItem_eq_ok_iff (legal : Legal line) (rest : List Item) :
    rest.foldlM takeItem (ofItems line) = .ok options ↔
      Legal (line ++ rest) ∧ options = ofItems (line ++ rest) := by
  -- The options so far are what the line so far asks for.
  induction rest generalizing line with
  | nil => simp [legal, Pure.pure, Except.pure, eq_comm]
  | cons item rest ih =>
    rw [List.foldlM_cons, bind_eq_ok, List.append_cons]
    simp only [takeItem_eq_ok_iff legal]
    constructor
    · rintro ⟨_, ⟨behind, rfl⟩, others⟩
      exact (ih behind).mp others
    · -- Nothing is wrong with the line up to the item if nothing is with the whole.
      rintro ⟨whole, same⟩
      have behind : Legal (line ++ [item]) := whole.left
      exact ⟨_, ⟨behind, rfl⟩, (ih behind).mpr ⟨whole, same⟩⟩

/-- Arguments are accepted exactly if nothing is wrong with what stands on the command line, and then
the options are what it asks for. -/
theorem ofArguments_eq_ok_iff : ofArguments arguments = .ok options ↔
    Legal (items arguments) ∧ options = ofItems (items arguments) := by
  -- The arguments are taken item by item.
  rw [ofArguments, takeAll_eq]
  exact foldlM_takeItem_eq_ok_iff .nil (items arguments)

example : (ofArguments
    ["-s", "A1=5", "-o", "a.grd", "--set", "B1==A1 * 2", "-o", "b.grd", "s.sprd"]).toOption =
      some ⟨some "s.sprd", [("A1", "5"), ("B1", "=A1 * 2")], none, false, some "b.grd", none, false⟩ := by
  decide +kernel

end Options

end Worksheet.CommandLine
