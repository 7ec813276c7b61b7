import ScoringRules.Config.Basic
import ScoringRules.Proofs.Validation.Loosening

/-!
# Bounds that hold while limits are enforced

A configuration may set limits as it likes up to the hard maxima, so what is accepted under the
limits of a valid configuration is bounded by the hard maxima.

- `ScoreDefinition.Bounded` and `ScoreCard.Bounded` state the bounds, for each size in a document
- `Config.hardLimits_loosens` compares the hard maxima with the limits of a configuration
- `ScoreDefinition.bounded_of_loosens` and `ScoreCard.bounded_of_loosens` bound what is accepted
-/

namespace ScoringRules

/-- Whether the sizes in a formula are within the hard maxima. -/
structure ScoreFormula.Bounded (formula : ScoreFormula) : Prop where
  pattern : formula.artifact.pattern.utf8ByteSize ≤ 4096
  expression : formula.expression.utf8ByteSize ≤ 1048576

/-- Whether the sizes in a rollup and its components are within the hard maxima. -/
structure RollupFormula.Bounded (rollup : RollupFormula) : Prop where
  count : rollup.components.length ≤ 1024
  components : ∀ formula ∈ rollup.components, formula.Bounded
  expression : rollup.expression.utf8ByteSize ≤ 1048576

/-- Whether the sizes in a formula of either form are within the hard maxima. -/
def Formula.Bounded : Formula → Prop
  | single formula => formula.Bounded
  | rollup formula => formula.Bounded

/-- Whether all sizes in a score definition are bounded. -/
structure ScoreDefinition.Bounded (definition : ScoreDefinition) : Prop where
  target : definition.target.pattern.utf8ByteSize ≤ 4096
  formula : ∀ formula ∈ definition.formula, formula.Bounded
  thresholds : ∀ type ∈ definition.type, type.thresholdCount ≤ 1024

/-- Whether all sizes in a score card are bounded. -/
structure ScoreCard.Bounded (card : ScoreCard) : Prop where
  target : card.target.pattern.utf8ByteSize ≤ 4096
  count : card.scorePatterns.length ≤ 1024
  scorePatterns : ∀ pattern ∈ card.scorePatterns, pattern.utf8ByteSize ≤ 4096

/-- A limit is looser than one that is no higher. -/
theorem isLooser_some {loose strict : Nat} (le : strict ≤ loose) :
    IsLooser (some loose) (some strict) := by
  rintro _ ⟨⟩
  exact ⟨strict, rfl, le⟩

namespace Config

/-- The limits that are as loose as the hard maxima allow. -/
def hardLimits : Limits where
  scoreFormulas := some (Setting.maximum .maxScoreFormulas)
  scorePatterns := some (Setting.maximum .maxScorePatterns)
  thresholds := some (Setting.maximum .maxThresholds)
  expressionBytes := some (Setting.maximum .maxExpressionBytes)
  patternBytes := some (Setting.maximum .maxPatternBytes)

/-- Limits that are enforced are no looser than the hard maxima, when each is at most its
maximum. -/
theorem hardLimits_loosens {config : Config} (enforced : config.validation.enforceLimits = true)
    (bounded : ∀ setting : Setting, config.validation.value setting ≤ setting.maximum) :
    hardLimits.Loosens config.limits := by
  rw [limits, ValidationSettings.limits, if_pos enforced]
  exact ⟨isLooser_some (bounded .maxScoreFormulas), isLooser_some (bounded .maxScorePatterns),
    isLooser_some (bounded .maxThresholds), isLooser_some (bounded .maxExpressionBytes),
    isLooser_some (bounded .maxPatternBytes)⟩

end Config

section Accepted

open Config

/-- A size fits a limit that it is not above. -/
theorem Measurement.fits_some_iff {field : Field} {limit actual : Nat} :
    Fits ⟨field, some limit, actual⟩ ↔ actual ≤ limit := by
  simp only [Fits, Option.mem_some_iff, forall_eq']

/-- A formula whose sizes fit the hard maxima is bounded. -/
theorem ScoreFormula.bounded_of_fits {formula : ScoreFormula}
    (fits : ∀ size ∈ formula.sizes hardLimits, size.Fits) : formula.Bounded := by
  simp only [sizes, hardLimits, List.forall_mem_cons, Measurement.fits_some_iff] at fits
  exact ⟨fits.1, fits.2.1⟩

/-- A rollup whose sizes fit the hard maxima is bounded. -/
theorem RollupFormula.bounded_of_fits {rollup : RollupFormula}
    (fits : ∀ size ∈ rollup.sizes hardLimits, size.Fits) : rollup.Bounded := by
  simp only [sizes, List.forall_mem_append, List.forall_mem_cons, List.forall_mem_flatMap] at fits
  obtain ⟨⟨count, components⟩, expression, -⟩ := fits
  exact ⟨Measurement.fits_some_iff.mp count,
    fun formula member => formula.bounded_of_fits (components formula member),
    Measurement.fits_some_iff.mp expression⟩

variable {limits : Limits} {parent : String}

/-- A score definition is bounded when it is accepted under limits that are no looser than the hard
maxima. -/
theorem ScoreDefinition.bounded_of_loosens (loosens : hardLimits.Loosens limits)
    {definition : ScoreDefinition} (accepted : (definition.validate limits parent).errors = []) :
    definition.Bounded := by
  rw [errors_validate] at accepted
  have fits := fits_of_loosens loosens (errors_eq_nil_iff_fits.mp accepted).2
  simp only [sizes, formulaSizes, Selector.targetSizes, List.forall_mem_append,
    List.forall_mem_flatMap, List.forall_mem_singleton, ScoreType.sizes, Option.mem_toList] at fits
  obtain ⟨⟨target, formulas⟩, types⟩ := fits
  refine ⟨Measurement.fits_some_iff.mp target, fun formula given => ?_,
    fun type given => Measurement.fits_some_iff.mp (types type given)⟩
  have within := formulas formula given
  cases formula with
  | single formula => exact formula.bounded_of_fits within
  | rollup rollup => exact rollup.bounded_of_fits within

/-- A score card is bounded when it is accepted under limits that are no looser than the hard
maxima. -/
theorem ScoreCard.bounded_of_loosens (loosens : hardLimits.Loosens limits) {card : ScoreCard}
    (accepted : (card.validate limits parent).errors = []) : card.Bounded := by
  rw [errors_validate] at accepted
  have fits := fits_of_loosens loosens (errors_eq_nil_iff_fits.mp accepted).2
  simp only [sizes, Selector.targetSizes, List.forall_mem_append, List.forall_mem_cons,
    List.forall_mem_map] at fits
  obtain ⟨⟨target, -⟩, count, patterns⟩ := fits
  exact ⟨Measurement.fits_some_iff.mp target, Measurement.fits_some_iff.mp count,
    fun pattern member => Measurement.fits_some_iff.mp (patterns pattern member)⟩

end Accepted

end ScoringRules
