import ScoringRules.Proofs.Validation.Acceptance

/-!
# Score cards

A score card is judged pattern by pattern, and its report records a rejection once. A card without
score patterns is reported like any other, though nothing is judged in it but its target.

- `ScoreCard.errors_of_target` and `ScoreCard.errors_of_empty` are the two ways through the patterns
- `card_report` describes acceptance, errors and record of a card
-/

namespace ScoringRules

namespace ScoreCard

/-- The card with a single score pattern in place of its own. -/
def only (card : ScoreCard) (pattern : String) : ScoreCard :=
  { card with scorePatterns := [pattern] }

variable {limits : Limits} {parent : String} {card : ScoreCard}

/-- Relative to an accepted target, the errors of a card are those of its patterns one after the
other. -/
theorem errors_of_target {target : Pattern}
    (accepted : parseTarget parent card.target.pattern = .ok target)
    (nonempty : card.scorePatterns ≠ []) :
    card.errors .unbounded parent = card.scorePatterns.flatMap (scorePatternErrors target) := by
  have unlimited : card.scorePatterns.flatMap (lengthErrors none .scorePattern) = [] :=
    List.flatMap_eq_nil_iff.mpr fun _ _ => rfl
  rw [errors, targetErrors, accepted, scorePatternsErrors, if_neg nonempty, relativeErrors,
    accepted]
  change [] ++ ([] ++ card.scorePatterns.flatMap (lengthErrors none .scorePattern) ++ _) = _
  rw [unlimited, List.nil_append, List.nil_append, List.nil_append]

/-- A pattern that is alone in the card has the errors that it has relative to the target. -/
theorem errors_only {target : Pattern}
    (accepted : parseTarget parent card.target.pattern = .ok target) (pattern : String) :
    (card.only pattern).errors .unbounded parent = scorePatternErrors target pattern := by
  have same : parseTarget parent (card.only pattern).target.pattern = .ok target := accepted
  rw [errors_of_target same (List.cons_ne_nil _ _), only, List.flatMap_singleton]

/-- A card without score patterns has that error after those of its target. -/
theorem errors_of_empty (empty : card.scorePatterns = []) :
    card.errors limits parent =
      targetErrors limits parent card.target ++ [.structural .missingScorePatterns] := by
  rw [errors, scorePatternsErrors, if_pos empty]

end ScoreCard

/-- **The report of a score card.** Without limits a card is accepted exactly when it is valid, and
has the errors that its patterns have alone, in their order, when its target is accepted. Under any
limits a rejection is recorded once, also for a card without score patterns. -/
theorem card_report (parent : String) (card : ScoreCard) :
    ((card.validate .unbounded parent).errors = [] ↔ card.Valid parent) ∧
    (∀ target, parseTarget parent card.target.pattern = .ok target → card.scorePatterns ≠ [] →
      (card.validate .unbounded parent).errors = card.scorePatterns.flatMap fun pattern =>
        ((card.only pattern).validate .unbounded parent).errors) ∧
    ∀ limits : Limits,
      (card.validate limits parent).RecordsRejection .scoreCard parent card.id ∧
      (card.scorePatterns = [] → (card.validate limits parent).log =
        [.rejected .scoreCard parent card.id
          ((targetErrors limits parent card.target).length + 1)]) := by
  refine ⟨?acceptance, ?patterns, fun limits => ⟨?record, ?empty⟩⟩
  case acceptance =>
    rw [card.errors_validate, ScoreCard.errors_eq_nil_iff, card.overruns_unbounded,
      and_iff_left rfl]
  case patterns =>
    intro target accepted nonempty
    simp only [ScoreCard.errors_validate, ScoreCard.errors_of_target accepted nonempty,
      ScoreCard.errors_only accepted]
  case record => exact card.validate_recordsRejection limits parent
  case empty =>
    intro empty
    have errors := (card.errors_validate limits parent).trans (ScoreCard.errors_of_empty empty)
    have rejected : (card.validate limits parent).errors ≠ [] := by
      rw [errors]
      exact List.append_ne_nil_of_right_ne_nil _ (List.cons_ne_nil _ _)
    obtain ⟨event, log, -, rfl⟩ := (card.validate_recordsRejection limits parent).rejected rejected
    rw [log, errors, List.length_append, List.length_singleton]

/-- A card with a good pattern between one that starts with no reference and one that refers below
the target and ends in a wildcard. -/
def mixedCard : ScoreCard where
  id := "mixed"
  target := { pattern := "apis/-/versions/-" }
  scorePatterns := ["apis/-/artifacts/score", "$resource.version/artifacts/score-lint",
    "$resource.spec/artifacts/-"]

def anyVersion : Pattern where
  node := .version (.literal ⟨"bank", by decide⟩) .wildcard .wildcard

/-- The three errors of the card are those of its patterns alone, and one event records them. -/
theorem mixed_card_reported_by_pattern :
    parseTarget "projects/bank" mixedCard.target.pattern = .ok anyVersion ∧
      mixedCard.scorePatterns ≠ [] ∧
      (mixedCard.validate .unbounded "projects/bank").errors =
        (mixedCard.scorePatterns.flatMap fun pattern =>
          ((mixedCard.only pattern).validate .unbounded "projects/bank").errors) ∧
      (mixedCard.validate .unbounded "projects/bank").log =
        [.rejected .scoreCard "projects/bank" "mixed" 3] := by
  have accepted : parseTarget "projects/bank" mixedCard.target.pattern = .ok anyVersion := by
    decide +kernel
  have nonempty : mixedCard.scorePatterns ≠ [] := List.cons_ne_nil _ _
  have count : (mixedCard.validate .unbounded "projects/bank").errors.length = 3 := by
    decide +kernel
  obtain ⟨-, patterns, records⟩ := card_report "projects/bank" mixedCard
  have rejected : (mixedCard.validate .unbounded "projects/bank").errors ≠ [] := by
    intro none
    rw [none] at count
    cases count
  obtain ⟨event, log, -, rfl⟩ := (records .unbounded).1.rejected rejected
  rw [count] at log
  exact ⟨accepted, nonempty, patterns anyVersion accepted nonempty, log⟩

end ScoringRules
