import ScoringRules.Proofs.Validation.Acceptance

/-!
# What limits add

A limit has one effect: it adds an error for each size that is above it. All other errors stay as
they are without limits, and in their order, so raising a limit or taking it away rejects nothing
that was accepted.

- `withoutOverruns` leaves the errors out that are about sizes
- `ScoreDefinition.withoutOverruns_errors` and `ScoreCard.withoutOverruns_errors` say what remains
- `Limits.Loosens` compares limits
- `limits_only_add` collects the consequences for acceptance
-/

namespace ScoringRules

/-- The errors that are not about sizes, among others. -/
def withoutOverruns (errors : List ValidationError) : List ValidationError :=
  errors.filter fun error => ¬ error.IsOverrun

section Remaining

variable {errors others : List ValidationError}

/-- What remains of two lists remains of the one and then of the other. -/
theorem withoutOverruns_append :
    withoutOverruns (errors ++ others) = withoutOverruns errors ++ withoutOverruns others :=
  List.filter_append ..

/-- What remains of many lists remains of each of them. -/
theorem withoutOverruns_flatMap {α : Type} (parts : List α) (errors : α → List ValidationError) :
    withoutOverruns (parts.flatMap errors) =
      parts.flatMap fun part => withoutOverruns (errors part) :=
  List.filter_flatMap

/-- Where nothing is reported about sizes, everything remains. -/
theorem withoutOverruns_eq_self (silent : onlyOverruns errors = []) :
    withoutOverruns errors = errors := by
  rw [onlyOverruns, List.filter_eq_nil_iff] at silent
  rw [withoutOverruns, List.filter_eq_self]
  intro error member
  simpa only [decide_eq_true_eq] using silent error member

/-- Of the check of a size, nothing remains, as if there was no limit. -/
theorem withoutOverruns_sizeErrors (limit : Option Nat) (field : Field) (actual : Nat) :
    withoutOverruns (sizeErrors limit field actual) = sizeErrors none field actual := by
  have all := List.filter_eq_self.mp (onlyOverruns_overruns [⟨field, limit, actual⟩])
  rw [sizeErrors_eq, withoutOverruns, sizeErrors, List.filter_eq_nil_iff]
  intro error member
  simpa only [decide_eq_true_eq, not_not] using all error member

/-- Of a size that is checked before errors about something else, only those remain. -/
theorem withoutOverruns_sizeErrors_append {limit : Option Nat} {field : Field} {actual : Nat}
    (silent : onlyOverruns errors = []) :
    withoutOverruns (sizeErrors limit field actual ++ errors) =
      sizeErrors none field actual ++ errors := by
  rw [withoutOverruns_append, withoutOverruns_sizeErrors, withoutOverruns_eq_self silent]

end Remaining

section Documents

variable (limits : Limits) (parent : String)

/-- Errors about what a pattern stands for remain. -/
theorem withoutOverruns_applyToTarget (target : Pattern) (pattern : String) :
    withoutOverruns (errorsOf (applyToTarget target pattern)) =
      errorsOf (applyToTarget target pattern) :=
  withoutOverruns_eq_self (onlyOverruns_applyToTarget target pattern)

/-- Errors about tails remain. -/
theorem withoutOverruns_wildcardTailErrors (field : Field) (pattern : String) :
    withoutOverruns (wildcardTailErrors field pattern) = wildcardTailErrors field pattern :=
  withoutOverruns_eq_self (onlyOverruns_wildcardTailErrors field pattern)

/-- An error that is about something else remains where its condition holds. -/
theorem withoutOverruns_ite {condition : Prop} [Decidable condition] (error : ValidationError)
    (other : ¬ error.IsOverrun) :
    withoutOverruns (if condition then [error] else []) = if condition then [error] else [] :=
  withoutOverruns_eq_self (onlyOverruns_ite error other)

/-- What a formula has besides overruns is what it has without limits. -/
theorem ScoreFormula.withoutOverruns_errors (target : Pattern) (formula : ScoreFormula) :
    withoutOverruns (formula.errors limits target) = formula.errors .unbounded target := by
  have expression := @withoutOverruns_ite (formula.expression = "") _
    (.structural .missingScoreExpression) id
  have referenceId := @withoutOverruns_ite ('-' ∈ formula.referenceId.toList) _
    (.structural (.invalidReferenceId formula.referenceId)) id
  simp only [errors, lengthErrors, withoutOverruns_append, withoutOverruns_sizeErrors,
    withoutOverruns_applyToTarget, withoutOverruns_wildcardTailErrors, expression, referenceId]
  rfl

/-- What a rollup has besides overruns is what it has without limits. -/
theorem RollupFormula.withoutOverruns_errors (target : Pattern) (rollup : RollupFormula) :
    withoutOverruns (rollup.errors limits target) = rollup.errors .unbounded target := by
  have components := @withoutOverruns_ite (rollup.components = []) _
    (.structural .missingScoreFormulas) id
  have expression := @withoutOverruns_ite (rollup.expression = "") _
    (.structural .missingRollupExpression) id
  simp only [errors, lengthErrors, withoutOverruns_append, withoutOverruns_sizeErrors,
    withoutOverruns_flatMap, ScoreFormula.withoutOverruns_errors, components, expression]
  rfl

/-- What any formula has besides overruns is what it has without limits. -/
theorem withoutOverruns_formulaErrors (target : Pattern) (formula : Option Formula) :
    withoutOverruns (formulaErrors limits target formula) =
      formulaErrors .unbounded target formula := by
  cases formula with
  | none => rfl
  | some formula =>
      cases formula with
      | single formula => exact formula.withoutOverruns_errors limits target
      | rollup rollup => exact rollup.withoutOverruns_errors limits target

/-- What a type has besides overruns is what it has without limits. -/
theorem withoutOverruns_typeErrors (type : Option ScoreType) :
    withoutOverruns (typeErrors limits type) = typeErrors .unbounded type := by
  cases type with
  | none => rfl
  | some type =>
      cases type with
      | percent type =>
          exact withoutOverruns_sizeErrors_append (onlyOverruns_numberThresholdErrors ..)
      | integer type => exact withoutOverruns_sizeErrors_append (onlyOverruns_domainErrors type)
      | boolean type =>
          exact withoutOverruns_sizeErrors_append (onlyOverruns_booleanThresholdErrors _)

/-- What a target has besides overruns is what it has without limits. -/
theorem withoutOverruns_targetErrors (target : Selector) :
    withoutOverruns (targetErrors limits parent target) =
      targetErrors .unbounded parent target :=
  withoutOverruns_sizeErrors_append (onlyOverruns_parseTarget parent target.pattern)

/-- What remains is judged relative to the same target. -/
theorem withoutOverruns_relativeErrors (target : Selector)
    (errors : Pattern → List ValidationError) :
    withoutOverruns (relativeErrors parent target errors) =
      relativeErrors parent target fun target => withoutOverruns (errors target) := by
  unfold relativeErrors
  cases parseTarget parent target.pattern <;> rfl

/-- What a score definition has besides overruns is what it has without limits. -/
theorem ScoreDefinition.withoutOverruns_errors (definition : ScoreDefinition) :
    withoutOverruns (definition.errors limits parent) = definition.errors .unbounded parent := by
  simp only [errors, withoutOverruns_append, withoutOverruns_targetErrors,
    withoutOverruns_relativeErrors, withoutOverruns_formulaErrors, withoutOverruns_typeErrors]

/-- What score patterns have besides overruns is what they have without limits. -/
theorem withoutOverruns_scorePatternsErrors (card : ScoreCard) :
    withoutOverruns (scorePatternsErrors limits parent card) =
      scorePatternsErrors .unbounded parent card := by
  by_cases empty : card.scorePatterns = []
  · rw [scorePatternsErrors, scorePatternsErrors, if_pos empty, if_pos empty]
    rfl
  · have patterns (target : Pattern) : withoutOverruns
        (card.scorePatterns.flatMap (scorePatternErrors target)) =
          card.scorePatterns.flatMap (scorePatternErrors target) :=
      withoutOverruns_eq_self (onlyOverruns_scorePatternErrors target card.scorePatterns)
    rw [scorePatternsErrors, scorePatternsErrors, if_neg empty, if_neg empty]
    simp only [lengthErrors, withoutOverruns_append, withoutOverruns_sizeErrors,
      withoutOverruns_flatMap, withoutOverruns_relativeErrors, patterns]
    rfl

/-- What a score card has besides overruns is what it has without limits. -/
theorem ScoreCard.withoutOverruns_errors (card : ScoreCard) :
    withoutOverruns (card.errors limits parent) = card.errors .unbounded parent := by
  rw [errors, errors, withoutOverruns_append, withoutOverruns_targetErrors,
    withoutOverruns_scorePatternsErrors]

end Documents

/-- Whether a size is within its limit, if it has one. -/
def Measurement.Fits (size : Measurement) : Prop := ∀ limit ∈ size.limit, size.actual ≤ limit

/-- A size overruns its limit unless it fits. -/
theorem Measurement.overrun?_eq_none_iff {size : Measurement} :
    size.overrun? = none ↔ size.Fits := by
  obtain ⟨field, limit, actual⟩ := size
  cases limit with
  | none => exact iff_of_true rfl nofun
  | some limit =>
      simp only [overrun?, Fits, Option.mem_some_iff, forall_eq', ite_eq_right_iff, reduceCtorEq,
        imp_false, not_lt]

/-- There are no overruns when every size fits. -/
theorem overruns_eq_nil_iff {sizes : List Measurement} :
    overruns sizes = [] ↔ ∀ size ∈ sizes, size.Fits := by
  simp only [overruns, List.filterMap_eq_nil_iff, Measurement.overrun?_eq_none_iff]

/-- Whether a limit allows what another one allows: it is not set, or no lower than the other. -/
def IsLooser (loose strict : Option Nat) : Prop := ∀ limit ∈ loose, ∃ lower ∈ strict, lower ≤ limit

/-- Whether limits come from others by raising some and taking some away. -/
structure Limits.Loosens (loose strict : Limits) : Prop where
  scoreFormulas : IsLooser loose.scoreFormulas strict.scoreFormulas
  scorePatterns : IsLooser loose.scorePatterns strict.scorePatterns
  thresholds : IsLooser loose.thresholds strict.thresholds
  expressionBytes : IsLooser loose.expressionBytes strict.expressionBytes
  patternBytes : IsLooser loose.patternBytes strict.patternBytes

section Loosening

variable {loose strict : Limits}

/-- A size that fits a limit fits a looser one. -/
theorem Measurement.Fits.loosen {field : Field} {limit other : Option Nat} {actual : Nat}
    (fits : Fits ⟨field, other, actual⟩) (looser : IsLooser limit other) :
    Fits ⟨field, limit, actual⟩ := by
  intro bound given
  obtain ⟨lower, set, le⟩ := looser bound given
  exact (fits lower set).trans le

/-- The sizes in a formula go on fitting looser limits. -/
theorem ScoreFormula.fits_of_loosens (loosens : loose.Loosens strict) {formula : ScoreFormula}
    (fits : ∀ size ∈ formula.sizes strict, size.Fits) :
    ∀ size ∈ formula.sizes loose, size.Fits := by
  simp only [sizes, List.forall_mem_cons] at fits ⊢
  obtain ⟨pattern, expression, -⟩ := fits
  exact ⟨pattern.loosen loosens.patternBytes, expression.loosen loosens.expressionBytes,
    List.forall_mem_nil _⟩

/-- The sizes in a rollup go on fitting looser limits. -/
theorem RollupFormula.fits_of_loosens (loosens : loose.Loosens strict) {rollup : RollupFormula}
    (fits : ∀ size ∈ rollup.sizes strict, size.Fits) : ∀ size ∈ rollup.sizes loose, size.Fits := by
  simp only [sizes, List.forall_mem_append, List.forall_mem_cons, List.forall_mem_flatMap] at fits ⊢
  obtain ⟨⟨count, components⟩, expression, -⟩ := fits
  refine ⟨⟨count.loosen loosens.scoreFormulas, ?_⟩,
    expression.loosen loosens.expressionBytes, List.forall_mem_nil _⟩
  exact fun formula member => formula.fits_of_loosens loosens (components formula member)

/-- The sizes in a score definition go on fitting looser limits. -/
theorem ScoreDefinition.fits_of_loosens (loosens : loose.Loosens strict)
    {definition : ScoreDefinition} (fits : ∀ size ∈ definition.sizes strict, size.Fits) :
    ∀ size ∈ definition.sizes loose, size.Fits := by
  simp only [sizes, formulaSizes, Selector.targetSizes, List.forall_mem_append,
    List.forall_mem_flatMap, List.forall_mem_singleton, ScoreType.sizes] at fits ⊢
  obtain ⟨⟨target, formulas⟩, types⟩ := fits
  refine ⟨⟨target.loosen loosens.patternBytes, ?_⟩,
    fun type member => (types type member).loosen loosens.thresholds⟩
  intro formula member
  have within := formulas formula member
  cases formula with
  | single formula => exact formula.fits_of_loosens loosens within
  | rollup rollup => exact rollup.fits_of_loosens loosens within

/-- The sizes in a score card go on fitting looser limits. -/
theorem ScoreCard.fits_of_loosens (loosens : loose.Loosens strict) {card : ScoreCard}
    (fits : ∀ size ∈ card.sizes strict, size.Fits) : ∀ size ∈ card.sizes loose, size.Fits := by
  simp only [sizes, Selector.targetSizes, List.forall_mem_append, List.forall_mem_cons,
    List.forall_mem_map] at fits ⊢
  obtain ⟨⟨target, -⟩, count, patterns⟩ := fits
  exact ⟨⟨target.loosen loosens.patternBytes, List.forall_mem_nil _⟩,
    count.loosen loosens.scorePatterns,
    fun pattern member => (patterns pattern member).loosen loosens.patternBytes⟩

end Loosening

section Acceptance

variable {limits : Limits} {parent : String}

/-- A score definition is accepted under limits when it is accepted without them and its sizes
fit. -/
theorem ScoreDefinition.errors_eq_nil_iff_fits {definition : ScoreDefinition} :
    definition.errors limits parent = [] ↔
      definition.errors .unbounded parent = [] ∧ ∀ size ∈ definition.sizes limits, size.Fits := by
  rw [errors_eq_nil_iff, errors_eq_nil_iff, definition.overruns_unbounded, and_iff_left rfl,
    overruns_eq_nil_iff]

/-- A score card is accepted under limits when it is accepted without them and its sizes fit. -/
theorem ScoreCard.errors_eq_nil_iff_fits {card : ScoreCard} :
    card.errors limits parent = [] ↔
      card.errors .unbounded parent = [] ∧ ∀ size ∈ card.sizes limits, size.Fits := by
  rw [errors_eq_nil_iff, errors_eq_nil_iff, card.overruns_unbounded, and_iff_left rfl,
    overruns_eq_nil_iff]

end Acceptance

/-- Whether limits only add errors about sizes to what a document has without them, so that it is
accepted just when it is accepted without limits and its sizes fit, and looser limits keep it
accepted. -/
structure LimitsOnlyAdd (errors : Limits → List ValidationError)
    (sizes : Limits → List Measurement) : Prop where
  remaining : ∀ limits, withoutOverruns (errors limits) = errors .unbounded
  accepted_iff : ∀ limits,
    errors limits = [] ↔ errors .unbounded = [] ∧ ∀ size ∈ sizes limits, size.Fits
  loosened : ∀ loose strict : Limits, loose.Loosens strict → errors strict = [] → errors loose = []

/-- It is enough for acceptance to be a matter of sizes that go on fitting looser limits. -/
theorem LimitsOnlyAdd.of_fits {errors : Limits → List ValidationError}
    {sizes : Limits → List Measurement}
    (remaining : ∀ limits, withoutOverruns (errors limits) = errors .unbounded)
    (accepted_iff : ∀ limits,
      errors limits = [] ↔ errors .unbounded = [] ∧ ∀ size ∈ sizes limits, size.Fits)
    (loosen : ∀ loose strict : Limits, loose.Loosens strict →
      (∀ size ∈ sizes strict, size.Fits) → ∀ size ∈ sizes loose, size.Fits) :
    LimitsOnlyAdd errors sizes := by
  refine ⟨remaining, accepted_iff, ?_⟩
  intro loose strict loosens accepted
  obtain ⟨unlimited, fits⟩ := (accepted_iff strict).mp accepted
  exact (accepted_iff loose).mpr ⟨unlimited, loosen loose strict loosens fits⟩

/-- **What limits add.** Under any parent, limits add to the errors of score definitions and of
score cards just those of the sizes that are above them. -/
theorem limits_only_add (parent : String) :
    (∀ definition : ScoreDefinition,
      LimitsOnlyAdd (fun limits => (definition.validate limits parent).errors)
        fun limits => definition.sizes limits) ∧
    ∀ card : ScoreCard,
      LimitsOnlyAdd (fun limits => (card.validate limits parent).errors)
        fun limits => card.sizes limits := by
  simp only [ScoreDefinition.errors_validate, ScoreCard.errors_validate]
  constructor
  · intro definition
    apply LimitsOnlyAdd.of_fits
    · exact fun limits => definition.withoutOverruns_errors limits parent
    · exact fun limits => ScoreDefinition.errors_eq_nil_iff_fits
    · exact fun loose strict loosens fits => ScoreDefinition.fits_of_loosens loosens fits
  · intro card
    apply LimitsOnlyAdd.of_fits
    · exact fun limits => card.withoutOverruns_errors limits parent
    · exact fun limits => ScoreCard.errors_eq_nil_iff_fits
    · exact fun loose strict loosens fits => ScoreCard.fits_of_loosens loosens fits

/-- A score of APIs with an artifact pattern of 29 bytes. -/
def styleScore : ScoreDefinition where
  id := "style"
  target := { pattern := "apis/-" }
  formula := some (.single
    { artifact := { pattern := "$resource.api/artifacts/style" }, expression := "score" })
  type := some (.percent {})

/-- Limits that the sizes of the score just fit. -/
def exactLimits : Limits where
  scoreFormulas := some 0
  thresholds := some 0
  expressionBytes := some 5
  patternBytes := some 29

/-- The score stays accepted when the limit on patterns is raised and those on formulas and
thresholds are taken away, and with a lower limit, its artifact pattern is too long. -/
theorem style_score_kept_by_looser_limits :
    Limits.Loosens { patternBytes := some 64, expressionBytes := some 5 } exactLimits ∧
      (styleScore.validate exactLimits "projects/demo").errors = [] ∧
      (styleScore.validate { patternBytes := some 64, expressionBytes := some 5 }
        "projects/demo").errors = [] ∧
      (styleScore.validate { patternBytes := some 28 } "projects/demo").errors =
        [.structural (.limitExceeded .artifactPattern 28 29)] := by
  have loosens :
      Limits.Loosens { patternBytes := some 64, expressionBytes := some 5 } exactLimits := by
    refine ⟨nofun, nofun, nofun, ?expression, ?pattern⟩
    case expression =>
      rintro _ ⟨⟩
      exact ⟨5, rfl, le_rfl⟩
    case pattern =>
      rintro _ ⟨⟩
      exact ⟨29, rfl, by decide⟩
  have accepted : (styleScore.validate exactLimits "projects/demo").errors = [] := by decide +kernel
  exact ⟨loosens, accepted,
    ((limits_only_add "projects/demo").1 styleScore).loosened _ _ loosens accepted,
    by decide +kernel⟩

end ScoringRules
