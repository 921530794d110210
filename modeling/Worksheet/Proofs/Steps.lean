/-! Steps that may fail, one after the other. -/

namespace Worksheet

variable {ε δ α β : Type}

section Pair

variable {first : Except ε α} {next : α → Except ε β}

/-- A step succeeds if it gives a result. -/
theorem isOk_iff : first.isOk = true ↔ ∃ result, first = .ok result := by
  cases first <;> simp [Except.isOk, Except.toBool]

/-- A step that leaves something behind and succeeds gives a result as well. -/
theorem exists_of_isOk {answer : Except ε α × β} (through : answer.1.isOk = true) :
    ∃ result, answer = (.ok result, answer.2) := by
  -- Only the first component of an answer tells whether it went through.
  obtain ⟨result, same⟩ := isOk_iff.mp through
  exact ⟨result, Prod.ext same rfl⟩

/-- A step whose result is changed gives a result if it gave one before. -/
theorem map_eq_ok {change : α → β} {result : β} :
    first.map change = .ok result ↔ ∃ between, first = .ok between ∧ change between = result := by
  cases first <;> simp [Except.map]

/-- Two steps succeed together if the second one succeeds on what the first one gives. -/
theorem bind_eq_ok {result : β} :
    first >>= next = .ok result ↔ ∃ between, first = .ok between ∧ next between = .ok result := by
  cases first <;> simp [Bind.bind, Except.bind]

/-- Two steps fail together if the first one fails, or the second one on what the first one gives. -/
theorem bind_eq_error {error : ε} :
    first >>= next = .error error ↔
      first = .error error ∨ ∃ between, first = .ok between ∧ next between = .error error := by
  cases first <;> simp [Bind.bind, Except.bind]

end Pair

section Run

variable {step : β → α → Except ε β} {items : List α} {before last : β}

/-- A run goes through as before with other steps that do whatever the steps before did. -/
theorem foldlM_mono {other : β → α → Except δ β}
    (same : ∀ state item next, step state item = .ok next → other state item = .ok next)
    (done : items.foldlM step before = .ok last) : items.foldlM other before = .ok last := by
  -- Each step of the one run is a step of the other one.
  induction items generalizing before with
  | nil =>
    cases done
    rfl
  | cons item rest ih =>
    rw [List.foldlM_cons] at done ⊢
    obtain ⟨between, taken, others⟩ := bind_eq_ok.mp done
    exact bind_eq_ok.mpr ⟨between, same before item between taken, ih others⟩

end Run

end Worksheet
