import ScoringRules.Proofs.Validation.Cards

/-!
# Errors part by part

The errors of a score definition are those of its target, of its formula and of its type, one list
after the other, and in the list of a rollup formula each component has the errors that it has as
the only formula. All checks share one report, but each only appends to it, so what one part has to
report depends on nothing in the others, except that formulas are judged relative to the target.

- `PartErrors` gives the errors of each part as a function of what they depend on
- `ErrorsByPart` says that the checks of the parts append them to whatever was found before, how the
  errors of a definition are made up of them, and what reordering the components of a rollup or
  adding some does
- `errors_by_part` proves it, together with the record of a rejection
-/

namespace ScoringRules

/-- The errors of each part of a score definition, as a function of what they depend on. -/
structure PartErrors where
  target : (parent pattern : String) → List ValidationError
  formula : (target : Pattern) → Option Formula → List ValidationError
  type : Option ScoreType → List ValidationError
  /-- The errors of a rollup about the number of its components. -/
  count : Nat → List ValidationError
  rollupExpression : String → List ValidationError

/-- The errors that components have, each as the only formula. -/
def PartErrors.blocks (parts : PartErrors) (target : Pattern) (components : List ScoreFormula) :
    List (List ValidationError) :=
  components.map fun component => parts.formula target (some (.single component))

/-- The errors that the parts of score definitions have under limits. -/
def Limits.partErrors (limits : Limits) : PartErrors where
  target parent pattern :=
    overruns [⟨.targetPattern, limits.patternBytes, pattern.utf8ByteSize⟩] ++
      errorsOf (parseTarget parent pattern)
  formula := formulaErrors limits
  type := typeErrors limits
  count components :=
    (if components = 0 then [.structural .missingScoreFormulas] else []) ++
      overruns [⟨.scoreFormulas, limits.scoreFormulas, components⟩]
  rollupExpression expression :=
    (if expression = "" then [.structural .missingRollupExpression] else []) ++
      overruns [⟨.rollupExpression, limits.expressionBytes, expression.utf8ByteSize⟩]

/-- Whether the errors of score definitions are made up of those of their parts. -/
structure ErrorsByPart (limits : Limits) (parts : PartErrors) : Prop where
  formulaAppends : ∀ target formula,
    Finds (checkFormula limits target formula) (parts.formula target formula)
  componentsAppend : ∀ target components,
    Finds (forM components fun component => component.check limits target)
      (parts.blocks target components).flatten
  typeAppends : ∀ type, Finds (checkType limits type) (parts.type type)
  accepted : ∀ parent (definition : ScoreDefinition) target,
    parseTarget parent definition.target.pattern = .ok target →
      (definition.validate limits parent).errors =
        parts.target parent definition.target.pattern ++ parts.formula target definition.formula ++
          parts.type definition.type
  rejected : ∀ parent (definition : ScoreDefinition) error,
    parseTarget parent definition.target.pattern = .error error →
      (definition.validate limits parent).errors =
        parts.target parent definition.target.pattern ++ parts.type definition.type
  rollup : ∀ target components expression,
    parts.formula target (some (.rollup { components, expression })) =
      parts.count components.length ++ (parts.blocks target components).flatten ++
        parts.rollupExpression expression
  reordered : ∀ target components others expression, components.Perm others →
    (parts.blocks target components).Perm (parts.blocks target others) ∧
      parts.formula target (some (.rollup { components := others, expression })) =
        parts.count components.length ++ (parts.blocks target others).flatten ++
          parts.rollupExpression expression
  extended : ∀ target components more expression,
    parts.formula target (some (.rollup { components := components ++ more, expression })) =
      parts.count (components.length + more.length) ++
        (parts.blocks target components).flatten ++ (parts.blocks target more).flatten ++
          parts.rollupExpression expression

section Parts

variable (limits : Limits)

/-- The errors of a target do not depend on its filter. -/
theorem targetErrors_eq_partErrors (parent : String) (target : Selector) :
    targetErrors limits parent target = limits.partErrors.target parent target.pattern := by
  rw [targetErrors, lengthErrors, sizeErrors_eq]
  rfl

/-- The components of a rollup have the errors that they have as the only formula, one list after
the other. -/
theorem flatMap_errors_eq_blocks (target : Pattern) (components : List ScoreFormula) :
    components.flatMap (ScoreFormula.errors limits target) =
      (limits.partErrors.blocks target components).flatten :=
  List.flatMap_def

/-- Between the blocks of its components, a rollup has the errors about their number and about its
own expression. -/
theorem formula_rollup_eq_blocks (target : Pattern) (components : List ScoreFormula)
    (expression : String) :
    limits.partErrors.formula target (some (.rollup { components, expression })) =
      limits.partErrors.count components.length ++
        (limits.partErrors.blocks target components).flatten ++
          limits.partErrors.rollupExpression expression := by
  change RollupFormula.errors limits target { components, expression } = _
  rw [RollupFormula.errors, flatMap_errors_eq_blocks, sizeErrors_eq, lengthErrors, sizeErrors_eq]
  simp only [Limits.partErrors, List.length_eq_zero_iff, List.append_assoc]

end Parts

/-- **No error masks another.** A score definition has the errors of its target, then those of its
formula when the target is accepted, and then those of its type, and in a rollup each component has
its own errors, whatever is wrong with the others and whatever was found before. A rejection is
recorded once, with the number of all errors. -/
theorem errors_by_part (limits : Limits) :
    ErrorsByPart limits limits.partErrors ∧
      ∀ parent (definition : ScoreDefinition),
        (definition.validate limits parent).RecordsRejection .scoreDefinition parent
          definition.id := by
  refine ⟨?parts, fun parent definition => definition.validate_recordsRejection limits parent⟩
  refine
    { formulaAppends := finds_checkFormula limits
      componentsAppend := ?components
      typeAppends := finds_checkType limits
      accepted := ?accepted
      rejected := ?rejected
      rollup := formula_rollup_eq_blocks limits
      reordered := ?reordered
      extended := ?extended }
  case components =>
    intro target components
    rw [← flatMap_errors_eq_blocks]
    exact finds_components limits target components
  case accepted =>
    intro parent definition target accepted
    rw [definition.errors_validate, ScoreDefinition.errors, relativeErrors, accepted,
      targetErrors_eq_partErrors]
    rfl
  case rejected =>
    intro parent definition error rejected
    rw [definition.errors_validate, ScoreDefinition.errors, relativeErrors, rejected,
      targetErrors_eq_partErrors, List.append_nil]
    rfl
  case reordered =>
    intro target components others expression reordered
    rw [formula_rollup_eq_blocks, reordered.length_eq]
    exact ⟨reordered.map _, rfl⟩
  case extended =>
    intro target components more expression
    rw [formula_rollup_eq_blocks, List.length_append, PartErrors.blocks, List.map_append,
      List.flatten_append]
    simp only [PartErrors.blocks, List.append_assoc]

/-- A component with three errors. -/
def hyphenated : ScoreFormula where
  artifact := { pattern := "$resource.api/artifacts/-" }
  referenceId := "lint-score"

/-- A component without a reference. -/
def unreferenced : ScoreFormula where
  artifact := { pattern := "apis/-/artifacts/style" }
  expression := "style"

/-- A rollup of both components, without an expression, in a definition without a type. -/
def faultyRollup : ScoreDefinition where
  id := "faulty"
  target := { pattern := "apis/-" }
  formula := some (.rollup { components := [hyphenated, unreferenced] })

def anyApi : Pattern where
  node := .api (.literal ⟨"depot", by decide⟩) .wildcard

/-- The errors of both components stand between the lists around them, and in the other order when
the components do; all six are counted in the record. -/
theorem faulty_rollup_reported_by_part :
    parseTarget "projects/depot" faultyRollup.target.pattern = .ok anyApi ∧
      (faultyRollup.validate .unbounded "projects/depot").errors =
        [.structural (.wildcardTail .artifactPattern "$resource.api/artifacts/-"),
          .structural .missingScoreExpression, .structural (.invalidReferenceId "lint-score"),
          .reference (.missing "apis/-/artifacts/style"), .structural .missingRollupExpression,
          .structural .missingType] ∧
      (Limits.unbounded.partErrors.formula anyApi
        (some (.rollup { components := [unreferenced, hyphenated] }))) =
        (Limits.unbounded.partErrors.blocks anyApi [unreferenced, hyphenated]).flatten ++
          [.structural .missingRollupExpression] ∧
      (faultyRollup.validate .unbounded "projects/depot").log =
        [.rejected .scoreDefinition "projects/depot" "faulty" 6] := by
  obtain ⟨parts, records⟩ := errors_by_part .unbounded
  have accepted : parseTarget "projects/depot" faultyRollup.target.pattern = .ok anyApi := by
    decide +kernel
  have errors := (parts.accepted "projects/depot" faultyRollup anyApi accepted).trans
    (show _ = [
      ValidationError.structural (.wildcardTail .artifactPattern "$resource.api/artifacts/-"),
      .structural .missingScoreExpression, .structural (.invalidReferenceId "lint-score"),
      .reference (.missing "apis/-/artifacts/style"), .structural .missingRollupExpression,
      .structural .missingType] by decide +kernel)
  have swapped : List.Perm [hyphenated, unreferenced] [unreferenced, hyphenated] :=
    List.Perm.swap unreferenced hyphenated []
  obtain ⟨-, reordered⟩ := parts.reordered anyApi _ _ "" swapped
  have rejected : (faultyRollup.validate .unbounded "projects/depot").errors ≠ [] :=
    errors ▸ List.cons_ne_nil _ _
  obtain ⟨event, log, -, rfl⟩ := (records "projects/depot" faultyRollup).rejected rejected
  rw [errors] at log
  exact ⟨accepted, errors, reordered.trans (by decide +kernel), log⟩

end ScoringRules
