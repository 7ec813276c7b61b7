import Mathlib.Data.List.Perm.Subperm
import ScoringRules.Proofs.Result
import ScoringRules.Proofs.Validation.Findings

/-!
# Sizes and their limits

Every size that is capped is listed here as a measurement, next to the document that it is measured
in. The errors about sizes are the overruns of these measurements, in their order, except that the
sizes in a formula are not looked at when the target is rejected.

- `ScoreDefinition.sizes` and `ScoreCard.sizes` list the measurements
- `ScoreDefinition.onlyOverruns_errors` and `ScoreCard.onlyOverruns_errors` say which overruns are
  reported
- `overruns_reported_iff` says when all of them are
-/

namespace ScoringRules

/-- A size in a document, with the limit that it is held against. -/
structure Measurement where
  field : Field
  limit : Option Nat
  actual : Nat
deriving DecidableEq, Repr

/-- The error of a size that is above its limit. -/
def Measurement.overrun? (size : Measurement) : Option ValidationError :=
  match size.limit with
  | none => none
  | some limit =>
      if limit < size.actual then some (.structural (.limitExceeded size.field limit size.actual))
      else none

/-- The errors of the sizes that are above their limits, one for each. -/
def overruns (sizes : List Measurement) : List ValidationError :=
  sizes.filterMap Measurement.overrun?

section Sizes

variable (limits : Limits)

/-- The sizes in a formula. -/
def ScoreFormula.sizes (formula : ScoreFormula) : List Measurement :=
  [⟨.artifactPattern, limits.patternBytes, formula.artifact.pattern.utf8ByteSize⟩,
    ⟨.scoreExpression, limits.expressionBytes, formula.expression.utf8ByteSize⟩]

/-- The sizes in a rollup, with those of its components. -/
def RollupFormula.sizes (rollup : RollupFormula) : List Measurement :=
  ⟨.scoreFormulas, limits.scoreFormulas, rollup.components.length⟩ ::
    rollup.components.flatMap (ScoreFormula.sizes limits) ++
    [⟨.rollupExpression, limits.expressionBytes, rollup.expression.utf8ByteSize⟩]

/-- The sizes in a formula of either form. -/
def Formula.sizes : Formula → List Measurement
  | single formula => formula.sizes limits
  | rollup formula => formula.sizes limits

/-- The number of thresholds of a score type. -/
def ScoreType.thresholdCount : ScoreType → Nat
  | .percent type => type.thresholds.length
  | .integer type => type.thresholds.length
  | .boolean type => type.thresholds.length

/-- The sizes in a score type. -/
def ScoreType.sizes (type : ScoreType) : List Measurement :=
  [⟨.thresholds, limits.thresholds, type.thresholdCount⟩]

/-- The sizes in a target. -/
def Selector.targetSizes (target : Selector) : List Measurement :=
  [⟨.targetPattern, limits.patternBytes, target.pattern.utf8ByteSize⟩]

/-- The sizes in the formula of a score definition, if it has one. -/
def ScoreDefinition.formulaSizes (definition : ScoreDefinition) : List Measurement :=
  definition.formula.toList.flatMap (Formula.sizes limits)

/-- The sizes in a score definition. -/
def ScoreDefinition.sizes (definition : ScoreDefinition) : List Measurement :=
  definition.target.targetSizes limits ++ definition.formulaSizes limits ++
    definition.type.toList.flatMap (ScoreType.sizes limits)

/-- The sizes in a score card. -/
def ScoreCard.sizes (card : ScoreCard) : List Measurement :=
  card.target.targetSizes limits ++
    ⟨.scorePatterns, limits.scorePatterns, card.scorePatterns.length⟩ ::
      card.scorePatterns.map fun pattern =>
        ⟨.scorePattern, limits.patternBytes, pattern.utf8ByteSize⟩

end Sizes

/-- Whether an error is about a size. -/
def ValidationError.IsOverrun : ValidationError → Prop
  | structural (.limitExceeded ..) => True
  | _ => False

instance : DecidablePred ValidationError.IsOverrun
  | .structural (.limitExceeded ..) => isTrue trivial
  | .structural .missingFormula | .structural .missingType | .structural .missingScoreFormulas
  | .structural .missingRollupExpression | .structural .missingScoreExpression
  | .structural .missingScorePatterns | .structural (.invalidIntegerBounds _)
  | .structural (.invalidReferenceId _) | .structural (.wildcardTail ..) | .parse _ | .reference _
  | .threshold _ => isFalse id

/-- The errors about sizes, among others. -/
def onlyOverruns (errors : List ValidationError) : List ValidationError :=
  errors.filter fun error => error.IsOverrun

section Overruns

variable {left right : List Measurement} {errors others : List ValidationError}

/-- The overruns of two lists are those of the one and then of the other. -/
@[simp]
theorem overruns_append : overruns (left ++ right) = overruns left ++ overruns right :=
  List.filterMap_append

/-- The overruns of many lists are those of each of them. -/
theorem overruns_flatMap {α : Type} (parts : List α) (sizes : α → List Measurement) :
    overruns (parts.flatMap sizes) = parts.flatMap fun part => overruns (sizes part) := by
  rw [overruns, List.filterMap_flatMap]
  rfl

/-- The check of a size finds its overrun. -/
theorem sizeErrors_eq (limit : Option Nat) (field : Field) (actual : Nat) :
    sizeErrors limit field actual = overruns [⟨field, limit, actual⟩] := by
  cases limit with
  | none => rfl
  | some limit =>
      simp only [sizeErrors, overruns, List.filterMap_cons, List.filterMap_nil,
        Measurement.overrun?]
      by_cases above : limit < actual
      · rw [if_pos above, if_pos above]
      · rw [if_neg above, if_neg above]

/-- The overruns among two lists are those among the one and then among the other. -/
@[simp]
theorem onlyOverruns_append :
    onlyOverruns (errors ++ others) = onlyOverruns errors ++ onlyOverruns others :=
  List.filter_append ..

/-- The overruns among many lists are those among each of them. -/
theorem onlyOverruns_flatMap {α : Type} (parts : List α) (errors : α → List ValidationError) :
    onlyOverruns (parts.flatMap errors) = parts.flatMap fun part => onlyOverruns (errors part) :=
  List.filter_flatMap

/-- There are no overruns among errors that are about something else. -/
theorem onlyOverruns_eq_nil (others : ∀ error ∈ errors, ¬ error.IsOverrun) :
    onlyOverruns errors = [] := by
  rw [onlyOverruns, List.filter_eq_nil_iff]
  intro error member
  rw [decide_eq_true_eq]
  exact others error member

/-- The overruns of sizes are all overruns. -/
@[simp]
theorem onlyOverruns_overruns (sizes : List Measurement) :
    onlyOverruns (overruns sizes) = overruns sizes := by
  rw [onlyOverruns, List.filter_eq_self]
  intro error member
  obtain ⟨⟨field, limit, actual⟩, -, overrun⟩ := List.mem_filterMap.mp member
  cases limit with
  | none => cases overrun
  | some limit =>
      simp only [Measurement.overrun?, Option.ite_none_right_eq_some, Option.some.injEq] at overrun
      obtain ⟨-, rfl⟩ := overrun
      rfl

/-- Where a size is checked before errors about something else, its overrun is the only one. -/
theorem onlyOverruns_sizeErrors_append {limit : Option Nat} {field : Field} {actual : Nat}
    (silent : onlyOverruns errors = []) :
    onlyOverruns (sizeErrors limit field actual ++ errors) = overruns [⟨field, limit, actual⟩] := by
  rw [onlyOverruns_append, silent, List.append_nil, sizeErrors_eq, onlyOverruns_overruns]

/-- The overrun of the first size comes first. -/
theorem overruns_cons (size : Measurement) (later : List Measurement) :
    overruns (size :: later) = overruns [size] ++ overruns later :=
  @overruns_append [size] later

/-- A condition on something else is no overrun. -/
theorem onlyOverruns_ite {condition : Prop} [Decidable condition] (error : ValidationError)
    (other : ¬ error.IsOverrun) : onlyOverruns (if condition then [error] else []) = [] := by
  apply onlyOverruns_eq_nil
  intro found member
  split at member
  · rwa [List.mem_singleton.mp member]
  · cases member

/-- A computation that fails for something else has no overrun. -/
theorem onlyOverruns_errorsOf {α : Type} {result : Except ValidationError α}
    (other : ∀ error, result = .error error → ¬ error.IsOverrun) :
    onlyOverruns (errorsOf result) = [] := by
  cases result with
  | ok value => rfl
  | error error => exact List.filter_cons_of_neg (by simpa using other error rfl)

/-- Errors that are wrapped as something else are no overruns. -/
theorem onlyOverruns_map {α : Type} {wrap : α → ValidationError} {found : List α}
    (other : ∀ value, ¬ (wrap value).IsOverrun) : onlyOverruns (found.map wrap) = [] := by
  apply onlyOverruns_eq_nil
  intro error member
  obtain ⟨value, -, rfl⟩ := List.mem_map.mp member
  exact other value

end Overruns

section Rejections

variable {pattern : String} {error : ValidationError}

/-- A target is rejected for what it says, not for its size. -/
theorem not_isOverrun_of_parseTarget {parent : String}
    (rejected : parseTarget parent pattern = .error error) : ¬ error.IsOverrun := by
  rcases bind_eq_error_iff.mp rejected with unread | ⟨target, -, judged⟩
  · obtain ⟨_, -, rfl⟩ := mapError_eq_error_iff.mp unread
    exact id
  · split at judged
    · cases judged
      exact id
    · cases judged

/-- A pattern is rejected for what it stands for, not for its size. -/
theorem not_isOverrun_of_applyToTarget {target : Pattern}
    (rejected : applyToTarget target pattern = .error error) : ¬ error.IsOverrun := by
  rcases bind_eq_error_iff.mp rejected with unnamed | ⟨level, -, rejected⟩
  · obtain ⟨_, -, rfl⟩ := mapError_eq_error_iff.mp unnamed
    exact id
  · split at rejected
    · cases rejected
      exact id
    · split at rejected
      · rcases bind_eq_error_iff.mp rejected with unresolved | ⟨resolved, -, rejected⟩
        · obtain ⟨_, -, rfl⟩ := mapError_eq_error_iff.mp unresolved
          exact id
        · rcases bind_eq_error_iff.mp rejected with unread | ⟨applied, -, judged⟩
          · obtain ⟨_, -, rfl⟩ := mapError_eq_error_iff.mp unread
            exact id
          · split at judged
            · cases judged
              exact id
            · cases judged
      · cases rejected
        exact id

end Rejections

section Reports

variable (limits : Limits) (parent : String)

/-- Errors about tails are no overruns. -/
@[simp]
theorem onlyOverruns_wildcardTailErrors (field : Field) (pattern : String) :
    onlyOverruns (wildcardTailErrors field pattern) = [] :=
  onlyOverruns_ite (.structural (.wildcardTail field pattern)) id

/-- Errors about what a pattern stands for are no overruns. -/
@[simp]
theorem onlyOverruns_applyToTarget (target : Pattern) (pattern : String) :
    onlyOverruns (errorsOf (applyToTarget target pattern)) = [] :=
  onlyOverruns_errorsOf fun _ => not_isOverrun_of_applyToTarget

/-- What a formula reports about sizes are the overruns of its measurements. -/
theorem ScoreFormula.onlyOverruns_errors (target : Pattern) (formula : ScoreFormula) :
    onlyOverruns (formula.errors limits target) = overruns (formula.sizes limits) := by
  have expression := @onlyOverruns_ite (formula.expression = "") _
    (.structural .missingScoreExpression) id
  have referenceId := @onlyOverruns_ite ('-' ∈ formula.referenceId.toList) _
    (.structural (.invalidReferenceId formula.referenceId)) id
  simp only [errors, lengthErrors, sizeErrors_eq, onlyOverruns_append, onlyOverruns_overruns,
    onlyOverruns_applyToTarget, onlyOverruns_wildcardTailErrors, expression, referenceId,
    List.append_nil]
  exact (overruns_cons _ _).symm

/-- What a rollup reports about sizes are the overruns of its measurements. -/
theorem RollupFormula.onlyOverruns_errors (target : Pattern) (rollup : RollupFormula) :
    onlyOverruns (rollup.errors limits target) = overruns (rollup.sizes limits) := by
  have components := @onlyOverruns_ite (rollup.components = []) _
    (.structural .missingScoreFormulas) id
  have expression := @onlyOverruns_ite (rollup.expression = "") _
    (.structural .missingRollupExpression) id
  simp only [errors, lengthErrors, sizeErrors_eq, onlyOverruns_append, onlyOverruns_overruns,
    components, onlyOverruns_flatMap, ScoreFormula.onlyOverruns_errors, expression,
    List.nil_append, List.append_nil]
  rw [sizes, overruns_append, overruns_cons _ (List.flatMap _ _), overruns_flatMap]

/-- What any formula reports about sizes are the overruns of its measurements. -/
theorem onlyOverruns_formulaErrors (target : Pattern) (definition : ScoreDefinition) :
    onlyOverruns (formulaErrors limits target definition.formula) =
      overruns (definition.formulaSizes limits) := by
  rw [ScoreDefinition.formulaSizes]
  cases definition.formula with
  | none => rfl
  | some formula =>
      rw [Option.toList_some, List.flatMap_singleton]
      cases formula with
      | single formula => exact formula.onlyOverruns_errors limits target
      | rollup rollup => exact rollup.onlyOverruns_errors limits target

/-- Errors of numeric thresholds are no overruns. -/
@[simp]
theorem onlyOverruns_numberThresholdErrors (domain : Interval) (thresholds : List NumberThreshold) :
    onlyOverruns (numberThresholdErrors domain thresholds) = [] :=
  onlyOverruns_map fun _ => id

/-- Errors of boolean thresholds are no overruns. -/
@[simp]
theorem onlyOverruns_booleanThresholdErrors (thresholds : List BooleanThreshold) :
    onlyOverruns (booleanThresholdErrors thresholds) = [] :=
  onlyOverruns_map fun _ => id

/-- Whether or not the domain of an integer score is valid, no overrun is reported about it. -/
theorem onlyOverruns_domainErrors (type : IntegerType) :
    onlyOverruns (if type.domain.min < type.domain.max then
      numberThresholdErrors type.domain type.thresholds
      else [.structural (.invalidIntegerBounds type.domain)]) = [] := by
  split
  · exact onlyOverruns_numberThresholdErrors ..
  · rfl

/-- What a score type, or its absence, reports about sizes. Whether the domain is valid does not
matter. -/
theorem onlyOverruns_typeErrors (type : Option ScoreType) :
    onlyOverruns (typeErrors limits type) =
      overruns (type.toList.flatMap (ScoreType.sizes limits)) := by
  cases type with
  | none => rfl
  | some type =>
      rw [Option.toList_some, List.flatMap_singleton]
      cases type with
      | percent type => exact onlyOverruns_sizeErrors_append (onlyOverruns_numberThresholdErrors ..)
      | integer type => exact onlyOverruns_sizeErrors_append (onlyOverruns_domainErrors type)
      | boolean type => exact onlyOverruns_sizeErrors_append (onlyOverruns_booleanThresholdErrors _)

/-- What is judged relative to a target reports nothing when the target is rejected. -/
theorem onlyOverruns_relativeErrors (target : Selector) (errors : Pattern → List ValidationError) :
    onlyOverruns (relativeErrors parent target errors) =
      relativeErrors parent target fun target => onlyOverruns (errors target) := by
  unfold relativeErrors
  cases parseTarget parent target.pattern <;> rfl

/-- Errors about the reading of a target are no overruns. -/
theorem onlyOverruns_parseTarget (pattern : String) :
    onlyOverruns (errorsOf (parseTarget parent pattern)) = [] :=
  onlyOverruns_errorsOf fun _ => not_isOverrun_of_parseTarget

/-- What a target reports about sizes is the overrun of its length. -/
theorem onlyOverruns_targetErrors (target : Selector) :
    onlyOverruns (targetErrors limits parent target) = overruns (target.targetSizes limits) :=
  onlyOverruns_sizeErrors_append (onlyOverruns_parseTarget parent target.pattern)

/-- What a score definition reports about sizes: the overruns of its measurements in their order,
those in the formula only when the target is accepted. -/
theorem ScoreDefinition.onlyOverruns_errors (definition : ScoreDefinition) :
    onlyOverruns (definition.errors limits parent) =
      overruns (definition.target.targetSizes limits) ++
        relativeErrors parent definition.target
          (fun _ => overruns (definition.formulaSizes limits)) ++
        overruns (definition.type.toList.flatMap (ScoreType.sizes limits)) := by
  simp only [errors, onlyOverruns_append, onlyOverruns_targetErrors, onlyOverruns_relativeErrors,
    onlyOverruns_formulaErrors, onlyOverruns_typeErrors]

/-- Score patterns report nothing about sizes besides their length. -/
theorem onlyOverruns_scorePatternErrors (target : Pattern) (patterns : List String) :
    onlyOverruns (patterns.flatMap (scorePatternErrors target)) = [] := by
  rw [onlyOverruns_flatMap, List.flatMap_eq_nil_iff]
  intro pattern _
  rw [scorePatternErrors, onlyOverruns_append, onlyOverruns_applyToTarget,
    onlyOverruns_wildcardTailErrors, List.append_nil]

/-- What a score card reports about sizes: the overruns of its measurements in their order. -/
theorem ScoreCard.onlyOverruns_errors (card : ScoreCard) :
    onlyOverruns (card.errors limits parent) = overruns (card.sizes limits) := by
  rw [errors, onlyOverruns_append, onlyOverruns_targetErrors, sizes, overruns_append,
    List.append_right_inj, scorePatternsErrors, overruns_cons]
  by_cases empty : card.scorePatterns = []
  · -- No size is below zero, so a card without score patterns has no overrun to report either.
    rw [if_pos empty, empty, ← sizeErrors_eq]
    cases limits.scorePatterns <;> rfl
  · have relative : onlyOverruns (relativeErrors parent card.target fun target =>
        card.scorePatterns.flatMap (scorePatternErrors target)) = [] := by
      rw [onlyOverruns_relativeErrors, relativeErrors]
      cases parseTarget parent card.target.pattern with
      | error rejection => rfl
      | ok target => exact onlyOverruns_scorePatternErrors target card.scorePatterns
    rw [if_neg empty, onlyOverruns_append, onlyOverruns_append, relative, List.append_nil,
      sizeErrors_eq, onlyOverruns_overruns, onlyOverruns_flatMap, List.map_eq_flatMap,
      overruns_flatMap]
    simp only [lengthErrors, sizeErrors_eq, onlyOverruns_overruns]

/-- **Which overruns are reported.** The overruns of a score definition are all among its errors,
each in a place of its own, exactly when its target is accepted or its formula has none; the
overruns of a score card always are. -/
theorem overruns_reported_iff :
    (∀ definition : ScoreDefinition,
      (overruns (definition.sizes limits)).Subperm (definition.validate limits parent).errors ↔
        (∃ target, parseTarget parent definition.target.pattern = .ok target) ∨
          overruns (definition.formulaSizes limits) = []) ∧
      ∀ card : ScoreCard,
        (overruns (card.sizes limits)).Subperm (card.validate limits parent).errors := by
  have among (errors : List ValidationError) : (onlyOverruns errors).Subperm errors :=
    List.filter_sublist.subperm
  constructor
  · intro definition
    rw [definition.errors_validate]
    have report := definition.onlyOverruns_errors limits parent
    have all := among (definition.errors limits parent)
    rw [ScoreDefinition.sizes, overruns_append, overruns_append]
    cases parsed : parseTarget parent definition.target.pattern with
    | ok target =>
        rw [relativeErrors, parsed] at report
        exact iff_of_true (report ▸ all) (Or.inl ⟨target, rfl⟩)
    | error rejection =>
        rw [relativeErrors, parsed, List.append_nil] at report
        have rejected : ¬ ∃ target : Pattern, Except.error rejection = Except.ok target := by
          rintro ⟨_, ⟨⟩⟩
        rw [or_iff_right rejected]
        constructor
        · intro found
          -- Only the other overruns are reported, so there is no room for one in the formula.
          have room := (found.filter fun error => error.IsOverrun).length_le
          change (onlyOverruns _).length ≤ (onlyOverruns _).length at room
          simp only [report, onlyOverruns_append, onlyOverruns_overruns, List.length_append] at room
          exact List.length_eq_zero_iff.mp (by omega)
        · intro unexceeded
          rw [unexceeded, List.append_nil]
          exact report ▸ all
  · intro card
    rw [card.errors_validate, ← card.onlyOverruns_errors limits parent]
    exact among (card.errors limits parent)

end Reports

/-- A definition whose target cannot be read, with a formula that is longer than some limits. -/
def misplacedDefinition : ScoreDefinition where
  id := "lint-errors"
  target := { pattern := "bogus/x" }
  formula := some (.single
    { artifact := { pattern := "$resource.spec/artifacts/lint" }, expression := "size(errors)" })
  type := some (.percent {})

/-- The pattern of the formula takes more bytes than it may, and no error says so. -/
theorem overlong_artifact_pattern_unreported :
    ¬ (overruns (misplacedDefinition.sizes { patternBytes := some 16 })).Subperm
      (misplacedDefinition.validate { patternBytes := some 16 }
        "projects/demo/locations/global").errors := by
  intro found
  have overrun : .structural (.limitExceeded .artifactPattern 16 29) ∈
      overruns (misplacedDefinition.sizes { patternBytes := some 16 }) := by
    decide +kernel
  have unreported : .structural (.limitExceeded .artifactPattern 16 29) ∉
      (misplacedDefinition.validate { patternBytes := some 16 }
        "projects/demo/locations/global").errors := by
    decide +kernel
  exact unreported (found.subset overrun)

end ScoringRules
