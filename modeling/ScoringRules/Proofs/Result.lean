/-!
# Computations that may fail

A chain of computations succeeds when each of its links does, and it fails when one of them does.
The lemmas take such a chain apart, one link at a time, down to the conditions that are judged.
-/

namespace ScoringRules

variable {ε δ α β : Type}

/-- A chain succeeds when both of its links do. -/
theorem bind_eq_ok_iff {first : Except ε α} {next : α → Except ε β} {result : β} :
    first >>= next = .ok result ↔ ∃ value, first = .ok value ∧ next value = .ok result := by
  cases first with
  | ok value =>
      constructor
      · exact fun succeeded => ⟨value, rfl, succeeded⟩
      · rintro ⟨_, ⟨⟩, succeeded⟩
        exact succeeded
  | error error =>
      constructor
      · exact nofun
      · rintro ⟨_, ⟨⟩, _⟩

/-- A result that is wrapped is there when the result is. -/
theorem map_eq_ok_iff {first : Except ε α} {wrap : α → β} {result : β} :
    wrap <$> first = .ok result ↔ ∃ value, first = .ok value ∧ wrap value = result := by
  cases first with
  | ok value =>
      constructor
      · rintro ⟨⟩
        exact ⟨value, rfl, rfl⟩
      · rintro ⟨_, ⟨⟩, rfl⟩
        rfl
  | error error =>
      constructor
      · exact nofun
      · rintro ⟨_, ⟨⟩, _⟩

/-- Rewriting errors does not matter to success. -/
theorem mapError_eq_ok_iff {first : Except ε α} {wrap : ε → δ} {result : α} :
    first.mapError wrap = .ok result ↔ first = .ok result := by
  cases first with
  | ok value =>
      constructor
      · rintro ⟨⟩
        rfl
      · rintro ⟨⟩
        rfl
  | error error => exact iff_of_false nofun nofun

/-- A chain fails at its first link or, when that succeeds, at its second. -/
theorem bind_eq_error_iff {first : Except ε α} {next : α → Except ε β} {error : ε} :
    first >>= next = .error error ↔
      first = .error error ∨ ∃ value, first = .ok value ∧ next value = .error error := by
  cases first with
  | ok value =>
      constructor
      · exact fun failed => Or.inr ⟨value, rfl, failed⟩
      · rintro (⟨⟨⟩⟩ | ⟨_, ⟨⟩, failed⟩)
        exact failed
  | error _ =>
      constructor
      · rintro ⟨⟩
        exact Or.inl rfl
      · rintro (⟨⟨⟩⟩ | ⟨_, ⟨⟩, _⟩)
        rfl

/-- An error that is rewritten has a cause. -/
theorem mapError_eq_error_iff {first : Except ε α} {wrap : ε → δ} {error : δ} :
    first.mapError wrap = .error error ↔ ∃ cause, first = .error cause ∧ wrap cause = error := by
  cases first with
  | ok value =>
      apply iff_of_false nofun
      rintro ⟨_, ⟨⟩, -⟩
  | error cause =>
      constructor
      · rintro ⟨⟩
        exact ⟨cause, rfl, rfl⟩
      · rintro ⟨_, ⟨⟩, rfl⟩
        rfl

section Conditions

variable {condition : Prop} [Decidable condition]

/-- A computation that rejects a value on a condition. -/
theorem rejection_eq_ok_iff {error : ε} {value result : α} :
    (if condition then .error error else .ok value) = Except.ok result ↔
      ¬ condition ∧ value = result := by
  by_cases rejected : condition
  · rw [if_pos rejected]
    exact iff_of_false nofun fun accepted => accepted.1 rejected
  · rw [if_neg rejected, and_iff_right rejected, Except.ok.injEq]

/-- A check that finds an error on a condition. -/
theorem check_eq_nil_iff {error : ε} : (if condition then [error] else []) = [] ↔ ¬ condition := by
  rw [ite_eq_right_iff, imp_iff_not (List.cons_ne_nil error [])]

/-- A check that finds an error unless a condition holds. -/
theorem requirement_eq_nil_iff {error : ε} :
    (if condition then [] else [error]) = [] ↔ condition := by
  rw [ite_eq_left_iff, imp_iff_not (List.cons_ne_nil error []), Decidable.not_not]

end Conditions

end ScoringRules
