import Mathlib.Data.List.TakeWhile
import Worksheet.Text.Blank
import Worksheet.Text.Split

/-!
Runs of characters: where the run at the head of a text stops, what trimming leaves as it is, and
which lines a text has.
-/

namespace Worksheet.Text

variable {p : Char → Bool} {run rest cs front back : List Char} {c separator : Char}

/-- Whether a text is at its end, or goes on with a character that is not part of a run. -/
def Stops (p : Char → Bool) (rest : List Char) : Prop :=
  ∀ c ∈ rest.head?, p c = false

/-- Every run stops at the end of a text. -/
theorem stops_nil : Stops p [] := by
  simp [Stops]

/-- A run stops before a character that is not part of it. -/
theorem stops_cons : Stops p (c :: rest) ↔ p c = false := by
  simp [Stops]

/-- Nothing more is taken where a run stops. -/
theorem Stops.takeWhile (stops : Stops p rest) : rest.takeWhile p = [] := by
  -- Only the first character has a say.
  cases rest with
  | nil => rfl
  | cons c tail => simp [stops_cons.mp stops]

/-- Nothing more is dropped where a run stops. -/
theorem Stops.dropWhile (stops : Stops p rest) : rest.dropWhile p = rest := by
  -- Only the first character has a say.
  cases rest with
  | nil => rfl
  | cons c tail => simp [stops_cons.mp stops]

/-- A run is taken whole up to where it stops. -/
theorem takeWhile_append (inside : ∀ c ∈ run, p c = true) (stops : Stops p rest) :
    (run ++ rest).takeWhile p = run := by
  rw [List.takeWhile_append_of_pos inside, stops.takeWhile, List.append_nil]

/-- A run is dropped whole up to where it stops. -/
theorem dropWhile_append (inside : ∀ c ∈ run, p c = true) (stops : Stops p rest) :
    (run ++ rest).dropWhile p = rest := by
  rw [List.dropWhile_append_of_pos inside, stops.dropWhile]

/-- Whether a text is its own trim, as it is when there is no blank at either end. -/
structure Trimmed (cs : List Char) : Prop where
  starts : ∀ c ∈ cs.head?, isBlank c = false
  ends : ∀ c ∈ cs.getLast?, isBlank c = false

/-- A text without blanks is its own trim. -/
theorem Trimmed.of_forall (solid : ∀ c ∈ cs, isBlank c = false) : Trimmed cs :=
  ⟨fun c first => solid c (List.mem_of_head? first),
    fun c last => solid c (List.mem_of_getLast? last)⟩

/-- Trimming leaves a text alone that has no blank at either end. -/
theorem Trimmed.trimBlanks (trimmed : Trimmed cs) : trimBlanks cs = cs := by
  -- The blanks at the end are the first ones of the text read backwards.
  have front : Stops isBlank cs := trimmed.starts
  have back : Stops isBlank cs.reverse := by
    intro c
    rw [List.head?_reverse]
    exact trimmed.ends c
  rw [Text.trimBlanks, front.dropWhile, back.dropWhile, List.reverse_reverse]

/-- A run has stopped behind its last character. -/
theorem stops_dropWhile (p : Char → Bool) (cs : List Char) : Stops p (cs.dropWhile p) := by
  -- The first character that is left would have been dropped otherwise.
  intro c first
  have stopped := List.head?_dropWhile_not p cs
  rwa [Option.mem_def.mp first] at stopped

/-- What is left by trimming has no blank at either end. -/
theorem trimmed_trimBlanks (cs : List Char) : Trimmed (trimBlanks cs) := by
  have front := stops_dropWhile isBlank cs
  have back := stops_dropWhile isBlank (cs.dropWhile isBlank).reverse
  obtain ⟨blanks, split⟩ := List.dropWhile_suffix (l := (cs.dropWhile isBlank).reverse) isBlank
  unfold trimBlanks
  generalize (cs.dropWhile isBlank).reverse.dropWhile isBlank = kept at back split
  constructor
  · -- The first character that is left was the first one before the blanks at the end went.
    intro c first
    rw [List.head?_reverse] at first
    apply front c
    rw [← List.getLast?_reverse, ← split, List.getLast?_append, first]
    rfl
  · -- The last character is the first one read backwards.
    intro c last
    rw [List.getLast?_reverse] at last
    exact back c last

/-- Trimming adds no characters. -/
theorem mem_of_mem_trimBlanks (member : c ∈ trimBlanks cs) : c ∈ cs := by
  -- What is left is a part of the text, read backwards and then forwards.
  have inner := (List.dropWhile_suffix isBlank).subset (List.mem_reverse.mp member)
  exact (List.dropWhile_suffix isBlank).subset (List.mem_reverse.mp inner)

/-- A text is its own trim exactly if it has no blank at either end. -/
theorem trimBlanks_eq_self_iff : trimBlanks cs = cs ↔ Trimmed cs := by
  constructor
  · -- What is its own trim has the ends of a trim.
    intro same
    rw [← same]
    exact trimmed_trimBlanks cs
  · exact Trimmed.trimBlanks

/-- A string is its own trim exactly if it has no blank at either end. -/
theorem trim_eq_self_iff {s : String} : trim s = s ↔ Trimmed s.toList := by
  rw [← trimBlanks_eq_self_iff, trim, ← String.toList_inj, String.toList_ofList]

/-- A blank before a text is trimmed away. -/
theorem trimBlanks_cons (blank : isBlank c = true) : trimBlanks (c :: cs) = trimBlanks cs := by
  simp only [trimBlanks, List.dropWhile_cons, blank, if_true]

/-- A text that does not begin with a blank is trimmed at its end only. -/
theorem exists_trimBlanks_cons (solid : isBlank c = false) (rest : List Char) : ∃ kept back,
    (∀ d ∈ back, isBlank d = true) ∧ rest = kept ++ back ∧ trimBlanks (c :: rest) = c :: kept := by
  -- Read backwards, the blanks run out at the first character at the latest.
  have front : Stops isBlank (c :: rest) := stops_cons.mpr solid
  refine ⟨(rest.reverse.dropWhile isBlank).reverse, (rest.reverse.takeWhile isBlank).reverse,
    fun d member => List.mem_takeWhile_imp (List.mem_reverse.mp member), ?_, ?_⟩
  · rw [← List.reverse_append, List.takeWhile_append_dropWhile, List.reverse_reverse]
  · rw [trimBlanks, front.dropWhile, List.reverse_cons, List.dropWhile_append]
    split
    · rename_i none
      simp [List.isEmpty_iff.mp none, solid]
    · simp

/-- A text is its trim with blanks on either side. -/
theorem exists_trimBlanks (cs : List Char) : ∃ front back,
    (∀ c ∈ front, isBlank c = true) ∧ (∀ c ∈ back, isBlank c = true) ∧
      cs = front ++ trimBlanks cs ++ back := by
  -- The blanks at the end are the first ones of the text read backwards.
  refine ⟨cs.takeWhile isBlank, ((cs.dropWhile isBlank).reverse.takeWhile isBlank).reverse,
    fun c => List.mem_takeWhile_imp, fun c member => ?_, ?_⟩
  · exact List.mem_takeWhile_imp (List.mem_reverse.mp member)
  · rw [trimBlanks, List.append_assoc, ← List.reverse_append, List.takeWhile_append_dropWhile,
      List.reverse_reverse, List.takeWhile_append_dropWhile]

/-- Blanks on either side of a text are trimmed away. -/
theorem trimBlanks_append (before : ∀ c ∈ front, isBlank c = true)
    (behind : ∀ c ∈ back, isBlank c = true) :
    trimBlanks (front ++ cs ++ back) = trimBlanks cs := by
  have backwards : ∀ c ∈ back.reverse, isBlank c = true :=
    fun c member => behind c (List.mem_reverse.mp member)
  rw [trimBlanks, List.append_assoc, List.dropWhile_append_of_pos before, List.dropWhile_append,
    trimBlanks]
  split
  · -- Nothing of the text is left, and nothing of the blanks behind it.
    rename_i none
    rw [List.dropWhile_eq_nil_iff.mpr behind, List.isEmpty_iff.mp none]
  · rw [List.reverse_append, List.dropWhile_append_of_pos backwards]

/-- Blanks are all that is trimmed away whole. -/
theorem trimBlanks_eq_nil_iff : trimBlanks cs = [] ↔ ∀ c ∈ cs, isBlank c = true := by
  constructor
  · -- Nothing stands between the blanks at both ends.
    intro none
    obtain ⟨front, back, before, behind, whole⟩ := exists_trimBlanks cs
    rw [whole, none, List.append_nil]
    exact List.forall_mem_append.mpr ⟨before, behind⟩
  · -- All characters go with those at the beginning.
    intro blank
    rw [trimBlanks, List.dropWhile_eq_nil_iff.mpr blank]
    rfl

/-- Without the separator a text is all one run up to it. -/
theorem forall_ne (absent : separator ∉ cs) : ∀ c ∈ cs, decide (c ≠ separator) = true :=
  fun _ member => decide_eq_true fun same => absent (same ▸ member)

/-- What goes on behind the run up to the first separator begins with the separator. -/
theorem eq_of_dropWhile (behind : cs.dropWhile (· ≠ separator) = c :: rest) : c = separator := by
  -- Where the run stops, its condition fails.
  have stops := stops_dropWhile (· ≠ separator) cs
  rwa [behind, stops_cons, decide_eq_false_iff_not, not_not] at stops

/-- A text is divided at its first separator if that one does not occur before. -/
theorem eq_append_separator_iff :
    cs = run ++ separator :: rest ∧ separator ∉ run ↔
      cs.takeWhile (· ≠ separator) = run ∧ cs.dropWhile (· ≠ separator) = separator :: rest := by
  constructor
  · -- The run up to the separator goes on as long as it does not occur.
    rintro ⟨rfl, absent⟩
    have inside := forall_ne absent
    have stops : Stops (· ≠ separator) (separator :: rest) := stops_cons.mpr (by simp)
    exact ⟨takeWhile_append inside stops, dropWhile_append inside stops⟩
  · -- The run and what is behind it are the whole text.
    rintro ⟨rfl, behind⟩
    refine ⟨?_, fun inside => ?_⟩
    · rw [← behind, List.takeWhile_append_dropWhile]
    · simpa using List.mem_takeWhile_imp inside

/-- A separator begins a new part, and any other character extends the first one. -/
theorem split_cons (separator c : Char) (rest : List Char) : split separator (c :: rest) =
    if c = separator then [] :: split separator rest
    else (split separator rest).modifyHead (c :: ·) := by
  -- A separator closes the run before it, and any other character joins the run behind it.
  simp only [split, List.foldr_cons]
  split <;> rfl

/-- Every text has a first part. -/
theorem exists_split (separator : Char) (cs : List Char) :
    ∃ first others, split separator cs = first :: others :=
  ⟨_, _, rfl⟩

/-- Both sides of a separator are split on their own. -/
theorem split_append (left right : List Char) :
    split separator (left ++ separator :: right) =
      split separator left ++ split separator right := by
  -- The left text is taken off character by character, up to the separator.
  induction left with
  | nil =>
    rw [List.nil_append, split_cons, if_pos rfl]
    rfl
  | cons c tail ih =>
    obtain ⟨first, others, parts⟩ := exists_split separator tail
    rw [List.cons_append, split_cons, split_cons, ih, parts]
    split <;> rfl

/-- A text without the separator is not split. -/
theorem split_of_notMem (absent : separator ∉ run) : split separator run = [run] := by
  -- Every character joins the one run that there is.
  induction run with
  | nil => rfl
  | cons c tail ih =>
    rw [List.mem_cons, not_or] at absent
    rw [split_cons, if_neg (Ne.symm absent.1), ih absent.2]
    rfl

/-- The parts of a split text are all of it but the separators. -/
theorem flatten_split (separator : Char) (cs : List Char) :
    (split separator cs).flatten = cs.filter (· ≠ separator) := by
  -- Only the separators are missing from the runs.
  induction cs with
  | nil => rfl
  | cons c rest ih =>
    obtain ⟨first, others, parts⟩ := exists_split separator rest
    rw [parts] at ih
    rw [split_cons, parts]
    by_cases same : c = separator
    · rw [if_pos same, List.filter_cons_of_neg (by simp [same]), ← ih]
      rfl
    · rw [if_neg same, List.filter_cons_of_pos (by simp [same]), ← ih]
      rfl

/-- The characters of the parts of a split text are those of the text but for the separator. -/
theorem mem_split_iff :
    (∃ run ∈ split separator cs, c ∈ run) ↔ c ∈ cs ∧ c ≠ separator := by
  -- The runs put together are the text without its separators.
  rw [← List.mem_flatten, flatten_split]
  simp

/-- No part of a split text holds the separator. -/
theorem notMem_of_mem_split (member : run ∈ split separator cs) : separator ∉ run :=
  fun inside => (mem_split_iff.mp ⟨run, member, inside⟩).2 rfl

/-- The first part of a text goes up to the separator, and the other parts hold no characters but
those from there on. -/
theorem split_eq (separator : Char) (cs : List Char) : ∃ others,
    split separator cs = cs.takeWhile (· ≠ separator) :: others ∧
      ∀ run ∈ others, ∀ c ∈ run, c ∈ cs.dropWhile (· ≠ separator) := by
  -- The first run ends at the first separator, and what follows it is split on its own.
  induction cs with
  | nil => exact ⟨[], rfl, by simp⟩
  | cons c rest ih =>
    by_cases same : c = separator
    · refine ⟨split separator rest, by simp [split_cons, same], fun run member d inside => ?_⟩
      have behind := (mem_split_iff.mp ⟨run, member, inside⟩).1
      simp [same, behind]
    · -- Any other character only makes the first run longer.
      obtain ⟨others, parts, within⟩ := ih
      refine ⟨others, by simp [split_cons, same, parts], ?_⟩
      simpa [same] using within

/-- A character behind the first separator of a text stands in one of the parts behind it. -/
theorem exists_part (member : c ∈ cs.dropWhile (· ≠ separator)) (different : c ≠ separator) :
    ∃ before after, cs = before ++ separator :: after ∧ ∃ run ∈ split separator after, c ∈ run := by
  -- The text behind the first run begins with the separator.
  cases behind : cs.dropWhile (· ≠ separator) with
  | nil =>
    rw [behind] at member
    cases member
  | cons first after =>
    obtain rfl := eq_of_dropWhile behind
    have divided := (eq_append_separator_iff.mpr ⟨rfl, behind⟩).1
    rw [behind] at member
    have later := (List.mem_cons.mp member).resolve_left different
    exact ⟨_, after, divided, mem_split_iff.mpr ⟨later, different⟩⟩

/-- Lines that end in line feeds are split each on its own, and behind them nothing stands. -/
theorem split_unlines (lines : List (List Char)) :
    split '\n' (unlines lines) = lines.flatMap (split '\n') ++ [[]] := by
  -- Each line ends at its line feed, and the others are split behind it.
  induction lines with
  | nil => rfl
  | cons line others ih =>
    calc split '\n' (unlines (line :: others))
      _ = split '\n' (line ++ '\n' :: unlines others) := by simp [unlines]
      _ = split '\n' line ++ split '\n' (unlines others) := split_append _ _
      _ = (line :: others).flatMap (split '\n') ++ [[]] := by
        rw [ih, List.flatMap_cons, List.append_assoc]

end Worksheet.Text
