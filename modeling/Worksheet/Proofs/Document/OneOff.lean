import Mathlib.Data.List.DropRight
import Worksheet.Proofs.Session
import Worksheet.Proofs.Sheet.History

/-!
Formulas that are evaluated without being stored: a formula is worth before it is entered into a cell
what the cell is worth behind the edit, and its text is refused for the same reason in both cases.
-/

namespace Worksheet

namespace Sheet

variable {settings : Settings} {sheet after : Sheet} {name target input v : String}
  {contents : Option Contents} {value : Contents} {order : List String}

/-- No cell that the edited one depends on behind an edit is recalculated. -/
theorem Applied.unlisted_of_edge (applied : sheet.Applied target contents order after)
    (sound : after.Sound) (edge : after.graph.Edge v target) : v ∉ order := by
  intro listed
  -- A listed cell depends on the edited one, which would then depend on itself.
  have reached := (sound.consistent.mem_order_iff applied.order_after).mp listed
  exact sound.acyclic target (.tail' reached edge)

/-- What an edit enters is worth the same before it and behind it. -/
theorem Applied.worth_eq (applied : sheet.Applied target (some value) order after)
    (sound : after.Sound) (stable : after.settings.naming.Stable)
    (same : sheet.settings = after.settings) : sheet.worth value = after.worth value := by
  have holds : after.stored? target = some value := by
    rw [applied.stored?, if_pos rfl]
  have listed := (sound.consistent.schedule applied.order_after).start_mem
  -- It sees only cells that the edit leaves alone.
  refine sound.worth_congr stable holds same fun v edge => ?_
  exact (applied.getElem? listed (applied.unlisted_of_edge sound edge)).symm

/-- The value of a stored cell is what its contents are worth, whichever name stands for it. -/
theorem Reachable.value_of_stored? (reachable : Reachable settings sheet)
    (stable : settings.naming.Stable) (named : sheet.cellName? name = some target)
    (holds : sheet.stored? target = some value) : sheet.value name = .ok (sheet.worth value) := by
  -- The value of a cell is current, and the name stands for the cell.
  obtain ⟨cell, found, contents⟩ := Option.map_eq_some_iff.mp holds
  have current := (reachable.current stable).value_eq found
  have answer : sheet.cellName name = .ok target := by
    rw [cellName, named]
  rw [Sheet.value, answer, ← contents, ← current]
  simp only [bind, Except.bind, found, Option.map_some, Option.getD_some]
  rfl

/-- What is entered into a cell gives it the worth that it had before the edit. -/
theorem Reachable.value_of_set (reachable : Reachable settings sheet)
    (stable : settings.naming.Stable) (named : sheet.cellName? name = some target)
    (read : Contents.ofInput settings.naming input = .ok (some value))
    (done : sheet.set name input = (.ok order, after)) :
    after.value name = .ok (sheet.worth value) := by
  have afterReachable : Reachable settings after := by
    have next := reachable.set name input
    rwa [done] at next
  have afterSettings := afterReachable.settings_eq
  have same : sheet.settings = after.settings := reachable.settings_eq.trans afterSettings.symm
  -- What the edit has applied is what was read.
  obtain ⟨_, contents, meant, answered, applied⟩ := applied_of_set reachable.sound.consistent done
  obtain rfl := Option.some.inj (named.symm.trans meant)
  rw [reachable.settings_eq, read] at answered
  obtain rfl := Except.ok.inj answered
  have holds : after.stored? target = some value := by
    rw [applied.stored?, if_pos rfl]
  -- The cell is worth behind the edit what its contents were worth before.
  have stillNamed : after.cellName? name = some target :=
    (cellName?_congr same.symm name).trans named
  rw [afterReachable.value_of_stored? stable stillNamed holds,
    applied.worth_eq afterReachable.sound (afterSettings ▸ stable) same]

/-- An edit of an allowed name is refused for its format exactly if its input cannot be read. -/
theorem Sound.refused_format_iff {error : FormatError} (sound : sheet.Sound)
    (named : sheet.cellName? name = some target) :
    (sheet.set name input).1 = .error (.formulaFormat error) ↔
      Contents.ofInput sheet.settings.naming input = .error error := by
  cases read : Contents.ofInput sheet.settings.naming input with
  | error other => simp [set_of_unread named read]
  | ok contents =>
    -- An input that is read can only be refused as circular.
    rcases sound.set_answer_cases named read with ⟨-, cycle, -, refused⟩ | ⟨-, order, through⟩
    · simp [refused]
    · simp [through]

end Sheet

namespace Document

variable {document : Document} {text : String} {f : Formula}

/-- The text of a formula is what is left of the blanks at both ends and then of one `=` in front. -/
theorem formulaText_eq (text : String) :
    let trimmed := (text.toList.dropWhile Text.isBlank).rdropWhile Text.isBlank
    formulaText text =
      String.ofList (if trimmed.head? = some '=' then trimmed.tail else trimmed) := by
  intro trimmed
  have same : Text.trimBlanks text.toList = trimmed := rfl
  rw [formulaText, same]
  -- Only a sign that is the first of the rest is taken off.
  cases trimmed with
  | nil => rfl
  | cons c rest =>
    by_cases sign : c = '='
    · simp [sign]
    · simp [sign]

/-- A formula is evaluated if its text is read as one. -/
theorem evaluate_of_read
    (read : Formula.ofText document.sheet.settings.naming (formulaText text) = .ok f) :
    document.evaluate text = .ok (document.sheet.evaluate f) := by
  -- The formula is evaluated on the sheet as it is.
  rw [evaluate, Sheet.parseFormula, read]
  rfl

/-- An edit of a document that goes through is one of its sheet. -/
theorem sheet_of_set {after : Document} {name input : String} {order : List String}
    (done : document.set name input = (.ok order, after)) :
    document.sheet.set name input = (.ok order, after.sheet) := by
  -- The document passes the answer of its sheet on.
  obtain ⟨answered, rfl⟩ := Prod.mk.inj done
  exact Prod.ext answered rfl

/-- A formula is refused for the format of its text exactly if that cannot be read. -/
theorem evaluate_refused_iff {error : FormatError} :
    document.evaluate text = .error (.formulaFormat error) ↔
      Formula.ofText document.sheet.settings.naming (formulaText text) = .error error := by
  -- Reading the text is the only thing that is refused.
  rw [evaluate, Sheet.parseFormula]
  cases Formula.ofText document.sheet.settings.naming (formulaText text) <;>
    simp [Except.map, Except.mapError]

end Document

namespace Session

/-- If names are normalized for good, evaluating a formula on a document agrees with entering it into
any cell, without outer blanks and behind one `=`: its text is refused exactly if the edit is refused
for that format, and if the edit goes through, the value behind it is what the evaluation gave before
it. -/
theorem evaluate_agrees_set (settings : Settings) (files : FileTree) (operations : List Operation) :
    let document := (transcript ⟨.empty settings, files⟩ operations).2.document
    document.sheet.settings.naming.Stable → ∀ text name target,
      document.sheet.cellName? name = some target →
      let trimmed := (text.toList.dropWhile Text.isBlank).rdropWhile Text.isBlank
      let bare := if trimmed.head? = some '=' then trimmed.tail else trimmed
      let input := "=" ++ String.ofList bare
      (∀ error, document.evaluate text = .error (.formulaFormat error) ↔
        (document.set name input).1 = .error (.formulaFormat error)) ∧
      ∀ order after, document.set name input = (.ok order, after) →
        ∃ value, document.evaluate text = .ok value ∧ after.sheet.value name = .ok value := by
  intro document stable text name target named trimmed bare input
  have reachable : Sheet.Reachable document.sheet.settings document.sheet :=
    reachable_transcript settings files operations
  have sound := reachable.sound
  -- The text that is evaluated is what the input has behind its sign.
  have same : Document.formulaText text = String.ofList bare := Document.formulaText_eq text
  have signed : Contents.ofInput document.sheet.settings.naming input =
      (Formula.ofText document.sheet.settings.naming (Document.formulaText text)).map
        fun f => some (.formula f) := by
    rw [same]
    exact Contents.ofInput_sign document.sheet.settings.naming (String.ofList bare)
  refine ⟨?_, ?_⟩
  · -- Both read the same text, and neither refuses it for its format later on.
    intro error
    have answer : (document.set name input).1 = (document.sheet.set name input).1 := rfl
    rw [answer, sound.refused_format_iff named, signed, Document.evaluate_refused_iff]
    cases Formula.ofText document.sheet.settings.naming (Document.formulaText text) <;>
      simp [Except.map]
  · intro order after done
    have edited := Document.sheet_of_set done
    obtain ⟨-, contents, -, read, -⟩ := Sheet.applied_of_set sound.consistent edited
    -- What the edit stores is the formula that is evaluated.
    rw [signed] at read
    obtain ⟨f, formula, rfl⟩ := map_eq_ok.mp read
    refine ⟨document.sheet.evaluate f, Document.evaluate_of_read formula, ?_⟩
    have stored : Contents.ofInput document.sheet.settings.naming input = .ok (some (.formula f)) :=
      signed.trans read
    exact reachable.value_of_set stable named stored edited

/-- A variable that is evaluated and then entered is worth the same both times. -/
theorem evaluate_agrees_set_reference :
    let document := (transcript ⟨.empty .plain, .empty ["work"]⟩ [.set "A1" "x"]).2.document
    document.sheet.settings.naming.Stable ∧ document.sheet.cellName? "B1" = some "B1" ∧
      ∃ order after value, document.set "B1" "=A1" = (.ok order, after) ∧
        document.evaluate " =A1 " = .ok value ∧ after.sheet.value "B1" = .ok value := by
  intro document
  have sheet : document.sheet = ((Sheet.empty .plain).set "A1" "x").2 := rfl
  have reachable : Sheet.Reachable .plain document.sheet := sheet ▸ .set "A1" "x" .empty
  have stable := reachable.stable_plain
  have named : document.sheet.cellName? "B1" = some "B1" :=
    reachable.cellName?_plain (by decide +kernel)
  -- The variable goes through behind the text that it refers to.
  have both := Sheet.text_then_reference
  simp only [Sheet.transcript, List.forall_mem_cons, Sheet.Entry.wentThrough] at both
  have through : (document.set "B1" "=A1").1.isOk = true := by
    rw [Document.set, sheet]
    exact both.2.1
  obtain ⟨order, done⟩ := exists_of_isOk through
  -- The blanks and the sign around the variable are taken off.
  have text : "=" ++ Document.formulaText " =A1 " = "=A1" := by decide +kernel
  rw [Document.formulaText_eq] at text
  have agrees :=
    evaluate_agrees_set .plain (.empty ["work"]) [.set "A1" "x"] stable " =A1 " "B1" "B1" named
  dsimp only at agrees text
  rw [text] at agrees
  obtain ⟨value, before, behind⟩ := agrees.2 order _ done
  exact ⟨stable, named, order, _, value, done, before, behind⟩

end Session

end Worksheet
