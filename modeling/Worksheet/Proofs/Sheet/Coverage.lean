import Worksheet.Proofs.Sheet.Lookup

/-!
A formula has the same value whenever its variables have the same numbers, and these are what its cell
depends on, each listed once and in the order in which they come first.
-/

namespace Worksheet

namespace Token

variable {tokens : List (Token Double)} {token : Token Double} {name : String}

/-- The variables of some tokens, each once, in order of first occurrence. -/
def names (tokens : List (Token Double)) : List String :=
  (tokens.filterMap reference?).eraseDups

/-- A variable is listed exactly if it occurs. -/
theorem mem_names : name ∈ names tokens ↔ reference name ∈ tokens :=
  Formula.mem_references (f := ⟨tokens⟩)

/-- A token that is no variable adds none to the list. -/
theorem names_concat_of_none (other : token.reference? = none) :
    names (tokens ++ [token]) = names tokens := by
  -- Only variables are picked.
  rw [names, List.filterMap_append, List.filterMap_cons_none other, List.filterMap_nil,
    List.append_nil, names]

/-- A variable is added to the list behind the others unless it is one of them. -/
theorem names_concat_reference (tokens : List (Token Double)) (name : String) :
    names (tokens ++ [reference name]) =
      if name ∈ names tokens then names tokens else names tokens ++ [name] := by
  have found : (reference name : Token Double).reference? = some name := rfl
  rw [names, List.filterMap_append, List.filterMap_cons_some found, List.filterMap_nil,
    List.eraseDups_append, ← names]
  -- The list so far decides whether anything is left of the new one.
  have listed : name ∈ names tokens ↔ name ∈ tokens.filterMap reference? := List.mem_eraseDups
  generalize tokens.filterMap reference? = earlier at listed
  split
  · rename_i member
    simp [List.removeAll, listed.mp member]
  · rename_i absent
    simp [List.removeAll, mt listed.mpr absent, List.eraseDups_cons]

/-- Variables are listed in the order of their first occurrences. -/
theorem pairwise_names (tokens : List (Token Double)) :
    (names tokens).Pairwise fun a b =>
      tokens.idxOf (reference a) < tokens.idxOf (reference b) := by
  -- One more token behind the others leaves their positions as they are.
  induction tokens using List.reverseRecOn with
  | nil => exact .nil
  | append_singleton before token ih =>
    have kept : (names before).Pairwise fun a b =>
        (before ++ [token]).idxOf (reference a) < (before ++ [token]).idxOf (reference b) := by
      refine ih.imp_of_mem fun first second earlier => ?_
      rwa [List.idxOf_append_of_mem (mem_names.mp first),
        List.idxOf_append_of_mem (mem_names.mp second)]
    cases token with
    | reference name =>
      rw [names_concat_reference]
      -- A variable that was named before adds no name.
      split
      · exact kept
      · -- A new one stands behind all tokens that were there.
        rename_i absent
        refine List.pairwise_append.mpr ⟨kept, List.pairwise_singleton _ _, ?_⟩
        intro other member last new
        rw [List.mem_singleton.mp new, List.idxOf_append_of_mem (mem_names.mp member),
          List.idxOf_append_of_notMem (mt mem_names.mpr absent)]
        exact Nat.lt_of_lt_of_le (List.idxOf_lt_length_of_mem (mem_names.mp member))
          (Nat.le_add_right _ _)
    | _ =>
      rw [names_concat_of_none rfl]
      exact kept

end Token

namespace Formula

variable {f : Formula}

/-- The value of a formula depends on the numbers of its variables alone. -/
theorem evaluate_congr {lookup other : String → Except LookupError Double}
    (agree : ∀ name ∈ f.references, lookup name = other name) :
    f.evaluate lookup = f.evaluate other :=
  Token.evaluate_congr fun name occurs => agree name (mem_references.mpr occurs)

/-- No variable of a formula is listed twice. -/
theorem nodup_references (f : Formula) : f.references.Nodup := by
  -- No position is before itself.
  refine (Token.pairwise_names f.tokens).imp ?_
  rintro a b earlier rfl
  exact Nat.lt_irrefl _ earlier

/-- A formula that is read from a text has the same value under any two lookups that agree on its
variables. These are the normalized names of the text, each listed once in the order in which they
come first, and on a sheet the cell of the formula depends on all of them. -/
theorem depends_on_references (naming : Naming) (text : String) (f : Formula)
    (read : ofText naming text = .ok f) :
    (∀ lookup other : String → Except LookupError Double,
      (∀ name ∈ f.references, lookup name = other name) → f.evaluate lookup = f.evaluate other) ∧
    f.tokens = (Token.ofText text).map (Token.mapReference naming.normalize) ∧
    (∀ name, name ∈ f.references ↔ .reference name ∈ f.tokens) ∧
    f.references.Nodup ∧
    (f.references.Pairwise fun a b =>
      f.tokens.idxOf (.reference a) < f.tokens.idxOf (.reference b)) ∧
    ∀ settings sheet key cell, Sheet.Reachable settings sheet → sheet.cells[key]? = some cell →
      cell.contents = .formula f → ∀ lookup other : String → Except LookupError Double,
        (∀ name, (name, key) ∈ sheet.graph.pairs → lookup name = other name) →
          f.evaluate lookup = f.evaluate other := by
  refine ⟨fun lookup other agree => evaluate_congr agree, ?_, fun name => mem_references,
    f.nodup_references, Token.pairwise_names f.tokens, ?_⟩
  · rw [(ofText_eq_ok.mp read).2]
  · intro settings sheet key cell reachable found holds lookup other agree
    -- The dependencies of the cell are the variables of what it holds.
    have stored : sheet.stored? key = some (.formula f) :=
      (Sheet.stored?_of_found found).trans (congrArg some holds)
    exact evaluate_congr fun name member => agree name
      (Graph.mem_pairs.mpr (reachable.sound.edge_of_mem_references stored member))

/-- Two spellings of one variable are listed once, and another variable makes no difference. -/
theorem depends_on_references_upper : ∃ f,
    ofText NameCase.upper.naming "a1+b1*A1" = .ok f ∧ f.references = ["A1", "B1"] ∧
      f.evaluate (fun _ => .error (.undefined "A1")) =
        f.evaluate fun name => if name = "a1" then .ok ⟨0⟩ else .error (.undefined "A1") := by
  -- The small letters are normalized, so that two of the three variables are one.
  have accepted : (ofText NameCase.upper.naming "a1+b1*A1").isOk = true := by decide +kernel
  obtain ⟨f, read⟩ := isOk_iff.mp accepted
  have listed : f.references = ["A1", "B1"] := by
    rw [(ofText_eq_ok.mp read).2]
    decide +kernel
  -- The two lookups differ at a name that the formula does not hold any more.
  refine ⟨f, read, listed, (depends_on_references _ _ f read).1 _ _ ?_⟩
  rw [listed]
  simp

end Formula

end Worksheet
