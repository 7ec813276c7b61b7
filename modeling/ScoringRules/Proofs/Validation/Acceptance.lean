import ScoringRules.Proofs.Reference.Application
import ScoringRules.Proofs.Threshold.Boolean
import ScoringRules.Proofs.Threshold.Partition
import ScoringRules.Proofs.Validation.Sizes

/-!
# Accepted definitions

A definition is accepted when it has no errors. What that comes to is said here without the checks:
a valid definition has a target that is a pattern, formulas that apply to it, and thresholds that
cover the values of its type. A valid definition is accepted under any limits that no size of it
exceeds.

- `ScoreDefinition.Valid` and `ScoreCard.Valid` are the conditions
- `ScoreDefinition.errors_eq_nil_iff` and `ScoreCard.errors_eq_nil_iff` identify them with
  acceptance
- `accepted_iff_valid` leaves the limits out
-/

namespace ScoringRules

/-- Whether `target` is what a pattern stands for under a parent, which has nothing to refer to. -/
structure IsTarget (parent pattern : String) (target : Pattern) : Prop where
  parsed : Pattern.parse (parent ++ "/" ++ pattern) = .ok target
  free : ¬ target.HasReference

/-- Whether a relative pattern stands for something and ends in an identifier. -/
structure ValidRelative (target : Pattern) (pattern : String) : Prop where
  applies : ∃ applied, Applies target pattern applied
  specific : ¬ HasWildcardTail pattern

/-- Whether a formula is valid relative to a target. -/
structure ScoreFormula.Valid (target : Pattern) (formula : ScoreFormula) : Prop where
  artifact : ValidRelative target formula.artifact.pattern
  expression : formula.expression ≠ ""
  referenceId : '-' ∉ formula.referenceId.toList

/-- Whether a rollup and each of its components are valid relative to a target. -/
structure RollupFormula.Valid (target : Pattern) (rollup : RollupFormula) : Prop where
  nonempty : rollup.components ≠ []
  components : ∀ formula ∈ rollup.components, formula.Valid target
  expression : rollup.expression ≠ ""

/-- Whether a formula of either form is valid relative to a target. -/
def Formula.Valid (target : Pattern) : Formula → Prop
  | single formula => formula.Valid target
  | rollup formula => formula.Valid target

/-- Whether numeric thresholds cover a domain, if there are any. -/
def ValidThresholds (domain : Interval) (thresholds : List NumberThreshold) : Prop :=
  thresholds = [] ∨
    Threshold.Partitions domain (thresholds.map fun threshold => threshold.range.interval)

/-- Whether the domain of a score type holds two values, and thresholds cover them. -/
def ScoreType.Valid : ScoreType → Prop
  | percent type => ValidThresholds percentDomain type.thresholds
  | integer type => type.min < type.max ∧ ValidThresholds type.domain type.thresholds
  | boolean type => ∀ value, (type.thresholds.map BooleanThreshold.value).count value = 1

/-- Whether a score definition is valid under a parent. -/
structure ScoreDefinition.Valid (parent : String) (definition : ScoreDefinition) : Prop where
  formula : ∃ target, IsTarget parent definition.target.pattern target ∧
    ∃ formula ∈ definition.formula, formula.Valid target
  type : ∃ type ∈ definition.type, type.Valid

/-- Whether a score card is valid under a parent. -/
structure ScoreCard.Valid (parent : String) (card : ScoreCard) : Prop where
  nonempty : card.scorePatterns ≠ []
  patterns : ∃ target, IsTarget parent card.target.pattern target ∧
    ∀ pattern ∈ card.scorePatterns, ValidRelative target pattern

section Checks

/-- A computation has no error when it has a result. -/
theorem errorsOf_eq_nil_iff {α : Type} {result : Except ValidationError α} :
    errorsOf result = [] ↔ ∃ value, result = .ok value := by
  cases result with
  | ok value => exact iff_of_true rfl ⟨value, rfl⟩
  | error error =>
      apply iff_of_false nofun
      rintro ⟨_, ⟨⟩⟩

/-- A target is accepted when it is one. -/
theorem parseTarget_eq_ok_iff {parent pattern : String} {target : Pattern} :
    parseTarget parent pattern = .ok target ↔ IsTarget parent pattern target := by
  rw [parseTarget, bind_eq_ok_iff]
  simp only [mapError_eq_ok_iff, rejection_eq_ok_iff]
  constructor
  · intro accepted
    obtain ⟨found, parsed, free, rfl⟩ := accepted
    exact ⟨parsed, free⟩
  · intro isTarget
    obtain ⟨parsed, free⟩ := isTarget
    exact ⟨target, parsed, free, rfl⟩

/-- A relative pattern has no errors when it is valid. -/
theorem relative_eq_nil_iff {target : Pattern} {field : Field} {pattern : String} :
    errorsOf (applyToTarget target pattern) = [] ∧ wildcardTailErrors field pattern = [] ↔
      ValidRelative target pattern := by
  simp only [errorsOf_eq_nil_iff, applyToTarget_eq_ok_iff, wildcardTailErrors, check_eq_nil_iff]
  constructor
  · intro passed
    obtain ⟨applies, specific⟩ := passed
    exact ⟨applies, specific⟩
  · intro valid
    obtain ⟨applies, specific⟩ := valid
    exact ⟨applies, specific⟩

/-- What is judged relative to a target is accepted together with the target. -/
theorem target_and_relative_eq_nil_iff {parent : String} {target : Selector}
    {errors : Pattern → List ValidationError} :
    errorsOf (parseTarget parent target.pattern) = [] ∧ relativeErrors parent target errors = [] ↔
      ∃ accepted, IsTarget parent target.pattern accepted ∧ errors accepted = [] := by
  simp only [errorsOf_eq_nil_iff, ← parseTarget_eq_ok_iff, relativeErrors]
  cases parseTarget parent target.pattern with
  | ok accepted => simp only [Except.ok.injEq, exists_eq', true_and, exists_eq_left']
  | error rejection =>
      apply iff_of_false
      · rintro ⟨⟨_, ⟨⟩⟩, -⟩
      · rintro ⟨_, ⟨⟩, -⟩

end Checks

section Acceptance

variable {limits : Limits} {parent : String}

/-- A formula has no errors when it is valid and within its limits. -/
theorem ScoreFormula.errors_eq_nil_iff {target : Pattern} {formula : ScoreFormula} :
    formula.errors limits target = [] ↔
      formula.Valid target ∧ overruns (formula.sizes limits) = [] := by
  rw [sizes, overruns_cons]
  simp only [errors, lengthErrors, sizeErrors_eq, List.append_eq_nil_iff, check_eq_nil_iff]
  constructor
  · intro passed
    obtain ⟨⟨⟨⟨⟨pattern, applied⟩, specific⟩, expression⟩, length⟩, referenceId⟩ := passed
    exact ⟨⟨relative_eq_nil_iff.mp ⟨applied, specific⟩, expression, referenceId⟩, pattern, length⟩
  · intro valid
    obtain ⟨⟨artifact, expression, referenceId⟩, pattern, length⟩ := valid
    obtain ⟨applied, specific⟩ := relative_eq_nil_iff.mpr artifact
    exact ⟨⟨⟨⟨⟨pattern, applied⟩, specific⟩, expression⟩, length⟩, referenceId⟩

/-- A rollup has no errors when it is valid and within its limits. -/
theorem RollupFormula.errors_eq_nil_iff {target : Pattern} {rollup : RollupFormula} :
    rollup.errors limits target = [] ↔
      rollup.Valid target ∧ overruns (rollup.sizes limits) = [] := by
  rw [sizes, overruns_append, overruns_cons, overruns_flatMap]
  simp only [errors, lengthErrors, sizeErrors_eq, List.append_eq_nil_iff, check_eq_nil_iff,
    List.flatMap_eq_nil_iff, ScoreFormula.errors_eq_nil_iff]
  constructor
  · intro passed
    obtain ⟨⟨⟨⟨nonempty, count⟩, components⟩, expression⟩, length⟩ := passed
    exact ⟨⟨nonempty, fun formula member => (components formula member).1, expression⟩,
      ⟨count, fun formula member => (components formula member).2⟩, length⟩
  · intro valid
    obtain ⟨⟨nonempty, components, expression⟩, ⟨count, sizes⟩, length⟩ := valid
    exact ⟨⟨⟨⟨nonempty, count⟩, fun formula member =>
      ⟨components formula member, sizes formula member⟩⟩, expression⟩, length⟩

/-- A formula has to be given, and is accepted when it is valid and within its limits. -/
theorem formulaErrors_eq_nil_iff {target : Pattern} {definition : ScoreDefinition} :
    formulaErrors limits target definition.formula = [] ↔
      (∃ formula ∈ definition.formula, formula.Valid target) ∧
        overruns (definition.formulaSizes limits) = [] := by
  rw [ScoreDefinition.formulaSizes]
  cases definition.formula with
  | none =>
      apply iff_of_false (List.cons_ne_nil _ _)
      rintro ⟨⟨_, ⟨⟩, -⟩, -⟩
  | some formula =>
      simp only [Option.mem_some_iff, exists_eq_left', Option.toList_some, List.flatMap_singleton]
      cases formula with
      | single formula => exact ScoreFormula.errors_eq_nil_iff
      | rollup rollup => exact RollupFormula.errors_eq_nil_iff

/-- Numeric thresholds have no errors when they cover the domain. -/
theorem numberThresholdErrors_eq_nil_iff_valid {domain : Interval}
    {thresholds : List NumberThreshold} :
    numberThresholdErrors domain thresholds = [] ↔ ValidThresholds domain thresholds := by
  rw [numberThresholdErrors, List.map_eq_nil_iff, Threshold.numberErrors_eq_nil_iff,
    List.map_eq_nil_iff]
  rfl

/-- Boolean thresholds have no errors when each value has one. -/
theorem booleanThresholdErrors_eq_nil_iff {thresholds : List BooleanThreshold} :
    booleanThresholdErrors thresholds = [] ↔
      ∀ value, (thresholds.map BooleanThreshold.value).count value = 1 := by
  rw [booleanThresholdErrors, List.map_eq_nil_iff, Threshold.booleanErrors_eq_nil_iff]

/-- A type has to be given, and has no errors when it is valid and within its limits. -/
theorem typeErrors_eq_nil_iff {given : Option ScoreType} :
    typeErrors limits given = [] ↔
      (∃ type ∈ given, type.Valid) ∧
        overruns (given.toList.flatMap (ScoreType.sizes limits)) = [] := by
  cases given with
  | none =>
      apply iff_of_false (List.cons_ne_nil _ _)
      rintro ⟨⟨_, ⟨⟩, -⟩, -⟩
  | some type =>
      simp only [Option.mem_some_iff, exists_eq_left', Option.toList_some, List.flatMap_singleton]
      cases type with
      | percent type =>
          rw [typeErrors, List.append_eq_nil_iff, sizeErrors_eq,
            numberThresholdErrors_eq_nil_iff_valid, and_comm]
          rfl
      | integer type =>
          have bounds : (if type.domain.min < type.domain.max then
              numberThresholdErrors type.domain type.thresholds
              else [.structural (.invalidIntegerBounds type.domain)]) = [] ↔
              type.min < type.max ∧ ValidThresholds type.domain type.thresholds := by
            rw [← numberThresholdErrors_eq_nil_iff_valid, Int32.lt_iff_toInt_lt]
            split
            · next proper => exact (and_iff_right proper).symm
            · next improper =>
                exact iff_of_false (List.cons_ne_nil _ _) fun valid => improper valid.1
          rw [typeErrors, List.append_eq_nil_iff, sizeErrors_eq, bounds, and_comm]
          rfl
      | boolean type =>
          rw [typeErrors, List.append_eq_nil_iff, sizeErrors_eq,
            booleanThresholdErrors_eq_nil_iff, and_comm]
          rfl

/-- A score definition is accepted when it is valid and within its limits. -/
theorem ScoreDefinition.errors_eq_nil_iff {definition : ScoreDefinition} :
    definition.errors limits parent = [] ↔
      definition.Valid parent ∧ overruns (definition.sizes limits) = [] := by
  rw [sizes, overruns_append, overruns_append]
  simp only [errors, targetErrors, lengthErrors, sizeErrors_eq, List.append_eq_nil_iff,
    typeErrors_eq_nil_iff]
  rw [and_assoc (b := errorsOf _ = []), target_and_relative_eq_nil_iff]
  simp only [formulaErrors_eq_nil_iff]
  constructor
  · intro passed
    obtain ⟨⟨length, target, accepted, formula, formulaSizes⟩, type, count⟩ := passed
    exact ⟨⟨⟨target, accepted, formula⟩, type⟩, ⟨length, formulaSizes⟩, count⟩
  · intro valid
    obtain ⟨⟨⟨target, accepted, formula⟩, type⟩, ⟨length, formulaSizes⟩, count⟩ := valid
    exact ⟨⟨length, target, accepted, formula, formulaSizes⟩, type, count⟩

/-- A score card is accepted when it is valid and within its limits. -/
theorem ScoreCard.errors_eq_nil_iff {card : ScoreCard} :
    card.errors limits parent = [] ↔ card.Valid parent ∧ overruns (card.sizes limits) = [] := by
  rw [sizes, overruns_append, overruns_cons, List.map_eq_flatMap, overruns_flatMap]
  simp only [errors, targetErrors, lengthErrors, sizeErrors_eq, List.append_eq_nil_iff,
    scorePatternsErrors]
  by_cases empty : card.scorePatterns = []
  · rw [if_pos empty]
    apply iff_of_false
    · rintro ⟨-, ⟨⟩⟩
    · rintro ⟨valid, -⟩
      exact valid.nonempty empty
  · have relative := @target_and_relative_eq_nil_iff parent card.target fun target =>
      card.scorePatterns.flatMap (scorePatternErrors target)
    simp only [List.flatMap_eq_nil_iff, scorePatternErrors, List.append_eq_nil_iff,
      relative_eq_nil_iff] at relative
    rw [if_neg empty]
    simp only [List.append_eq_nil_iff, List.flatMap_eq_nil_iff, lengthErrors, sizeErrors_eq]
    constructor
    · intro passed
      obtain ⟨⟨length, target⟩, ⟨count, lengths⟩, patterns⟩ := passed
      exact ⟨⟨empty, relative.mp ⟨target, patterns⟩⟩, length, count, lengths⟩
    · rintro ⟨valid, length, count, lengths⟩
      obtain ⟨target, patterns⟩ := relative.mpr valid.patterns
      exact ⟨⟨length, target⟩, ⟨count, lengths⟩, patterns⟩

/-- Whatever the limits are, a score definition that is accepted is valid. -/
theorem ScoreDefinition.valid_of_accepted {definition : ScoreDefinition}
    (accepted : (definition.validate limits parent).errors = []) : definition.Valid parent := by
  rw [errors_validate] at accepted
  exact (errors_eq_nil_iff.mp accepted).1

/-- Whatever the limits are, a score card that is accepted is valid. -/
theorem ScoreCard.valid_of_accepted {card : ScoreCard}
    (accepted : (card.validate limits parent).errors = []) : card.Valid parent := by
  rw [errors_validate] at accepted
  exact (errors_eq_nil_iff.mp accepted).1

/-- Without limits, nothing in a formula is too large. -/
theorem Formula.overruns_unbounded (formula : Formula) :
    overruns (formula.sizes .unbounded) = [] := by
  cases formula with
  | single formula => rfl
  | rollup rollup =>
      rw [sizes, RollupFormula.sizes, overruns_append, overruns_cons, overruns_flatMap]
      exact List.append_eq_nil_iff.mpr ⟨List.flatMap_eq_nil_iff.mpr fun _ _ => rfl, rfl⟩

/-- Without limits, nothing in a score definition is too large. -/
theorem ScoreDefinition.overruns_unbounded (definition : ScoreDefinition) :
    overruns (definition.sizes .unbounded) = [] := by
  have formula : overruns (definition.formulaSizes .unbounded) = [] := by
    rw [formulaSizes, overruns_flatMap]
    exact List.flatMap_eq_nil_iff.mpr fun formula _ => formula.overruns_unbounded
  rw [sizes, overruns_append, overruns_append, formula]
  cases definition.type <;> rfl

/-- Without limits, nothing in a score card is too large. -/
theorem ScoreCard.overruns_unbounded (card : ScoreCard) :
    overruns (card.sizes .unbounded) = [] := by
  rw [sizes, overruns_append, overruns_cons, List.map_eq_flatMap, overruns_flatMap]
  exact List.flatMap_eq_nil_iff.mpr fun _ _ => rfl

/-- **Acceptance.** Validation without limits finds nothing in a score definition exactly when it is
valid. -/
theorem accepted_iff_valid (parent : String) (definition : ScoreDefinition) :
    (definition.validate .unbounded parent).errors = [] ↔ definition.Valid parent := by
  rw [definition.errors_validate, ScoreDefinition.errors_eq_nil_iff, definition.overruns_unbounded,
    and_iff_left rfl]

end Acceptance

end ScoringRules
