import ScoringRules.Validation.Definition

/-!
# What checks find

All checks of a document go on with one report. Each of them only appends: it puts the errors that
it finds at the end of those found before, which it does not look at, and touches nothing else. So
what a check finds is a list of its own, and checks that run one after the other find one list after
the other.

- `Finds` says that a check finds a list of errors, and `Finds.andThen` and `finds_forM` compose
  checks
- `ScoreFormula.errors`, `typeErrors` and the like are the lists, each next to the lemma for its
  check
- `Concludes` adds the record of a rejection at the end
- `ScoreDefinition.concludes_check` and `ScoreCard.concludes_check` tell the reports of documents
-/

namespace ScoringRules

/-- A check that puts `found` at the end of the errors of any report, and changes nothing else in
it. -/
def Finds (check : Check) (found : List ValidationError) : Prop :=
  ∀ report : Report, (check.run report).2 = { report with errors := report.errors ++ found }

section Composition

variable {first second : Check} {found more : List ValidationError}

/-- A check that does nothing finds nothing. -/
theorem finds_pure : Finds (pure ()) [] := by
  intro report
  rw [List.append_nil]
  rfl

/-- A check that reports errors finds them. -/
theorem finds_reportAll (errors : List ValidationError) : Finds (reportAll errors) errors :=
  fun _ => rfl

/-- A check that finds one list finds what is the same list. -/
theorem Finds.of_eq (finds : Finds first found) (same : found = more) : Finds first more := by
  rwa [← same]

/-- A check that goes on after another one appends to what that has found. -/
theorem Finds.andThen (finds : Finds first found) (goesOn : Finds second more) :
    Finds (do first; second) (found ++ more) := by
  intro report
  change (second.run (first.run report).2).2 = _
  rw [finds, goesOn, List.append_assoc]

/-- Checks of the parts of a list find one list for each part, in order. -/
theorem finds_forM {α : Type} {check : α → Check} {found : α → List ValidationError}
    (each : ∀ part, Finds (check part) (found part)) (parts : List α) :
    Finds (forM parts check) (parts.flatMap found) := by
  induction parts with
  | nil => exact finds_pure
  | cons part later ih =>
      rw [List.flatMap_cons]
      exact (each part).andThen ih

end Composition

/-! ## Single conditions -/

/-- The error of a computation, as a list. -/
def errorsOf {ε α : Type} : Except ε α → List ε
  | .ok _ => []
  | .error error => [error]

/-- The error of a size that is above its limit. -/
def sizeErrors (limit : Option Nat) (field : Field) (actual : Nat) : List ValidationError :=
  match limit with
  | none => []
  | some limit =>
      if limit < actual then [.structural (.limitExceeded field limit actual)] else []

/-- The error of a text that is longer than its limit. -/
def lengthErrors (limit : Option Nat) (field : Field) (text : String) : List ValidationError :=
  sizeErrors limit field text.utf8ByteSize

/-- The error of a pattern that ends in a wildcard. -/
def wildcardTailErrors (field : Field) (pattern : String) : List ValidationError :=
  if HasWildcardTail pattern then [.structural (.wildcardTail field pattern)] else []

/-- A check of a condition finds its error where the condition holds. -/
theorem finds_reportIf (condition : Prop) [Decidable condition] (error : ValidationError) :
    Finds (reportIf condition error) (if condition then [error] else []) := by
  rw [reportIf]
  split
  · exact finds_reportAll [error]
  · exact finds_pure

/-- A check of a computation finds why it fails. -/
theorem finds_reportFailure {α : Type} (result : Except ValidationError α) :
    Finds (reportFailure result) (errorsOf result) := by
  cases result with
  | ok value => exact finds_pure
  | error error => exact finds_reportAll [error]

/-- The check of a size finds whether it is above its limit. -/
theorem finds_checkSize (limit : Option Nat) (field : Field) (actual : Nat) :
    Finds (checkSize limit field actual) (sizeErrors limit field actual) := by
  cases limit with
  | none => exact finds_pure
  | some limit => exact finds_reportIf _ _

/-- The check of a length finds whether it is above its limit. -/
theorem finds_checkLength (limit : Option Nat) (field : Field) (text : String) :
    Finds (checkLength limit field text) (lengthErrors limit field text) :=
  finds_checkSize limit field text.utf8ByteSize

/-- The check of a tail finds whether it is a wildcard. -/
theorem finds_checkWildcardTail (field : Field) (pattern : String) :
    Finds (checkWildcardTail field pattern) (wildcardTailErrors field pattern) :=
  finds_reportIf _ _

/-! ## Formulas -/

/-- The errors of a formula relative to a target. -/
def ScoreFormula.errors (limits : Limits) (target : Pattern) (formula : ScoreFormula) :
    List ValidationError :=
  let pattern := formula.artifact.pattern
  lengthErrors limits.patternBytes .artifactPattern pattern ++
    errorsOf (applyToTarget target pattern) ++
    wildcardTailErrors .artifactPattern pattern ++
    (if formula.expression = "" then [.structural .missingScoreExpression] else []) ++
    lengthErrors limits.expressionBytes .scoreExpression formula.expression ++
    (if '-' ∈ formula.referenceId.toList then
      [.structural (.invalidReferenceId formula.referenceId)] else [])

/-- The errors of a rollup relative to a target. -/
def RollupFormula.errors (limits : Limits) (target : Pattern) (rollup : RollupFormula) :
    List ValidationError :=
  (if rollup.components = [] then [.structural .missingScoreFormulas] else []) ++
    sizeErrors limits.scoreFormulas .scoreFormulas rollup.components.length ++
    rollup.components.flatMap (ScoreFormula.errors limits target) ++
    (if rollup.expression = "" then [.structural .missingRollupExpression] else []) ++
    lengthErrors limits.expressionBytes .rollupExpression rollup.expression

/-- The errors of a formula, or of its absence, relative to a target. -/
def formulaErrors (limits : Limits) (target : Pattern) : Option Formula → List ValidationError
  | some (.single formula) => formula.errors limits target
  | some (.rollup rollup) => rollup.errors limits target
  | none => [.structural .missingFormula]

section Formulas

variable (limits : Limits) (target : Pattern)

/-- The check of a formula only appends its errors. -/
theorem ScoreFormula.finds_check (formula : ScoreFormula) :
    Finds (formula.check limits target) (formula.errors limits target) := by
  have pattern := finds_checkLength limits.patternBytes .artifactPattern formula.artifact.pattern
  have applied := finds_reportFailure (applyToTarget target formula.artifact.pattern)
  have tail := finds_checkWildcardTail .artifactPattern formula.artifact.pattern
  have missing := finds_reportIf (formula.expression = "") (.structural .missingScoreExpression)
  have length := finds_checkLength limits.expressionBytes .scoreExpression formula.expression
  have referenceId := finds_reportIf ('-' ∈ formula.referenceId.toList)
    (.structural (.invalidReferenceId formula.referenceId))
  have inOrder := pattern.andThen <| applied.andThen <| tail.andThen <| missing.andThen <|
    length.andThen referenceId
  exact inOrder.of_eq (by simp only [errors, List.append_assoc])

/-- The components of a rollup are judged one after the other by the check of a single formula. -/
theorem finds_components (components : List ScoreFormula) :
    Finds (forM components fun formula => formula.check limits target)
      (components.flatMap (ScoreFormula.errors limits target)) :=
  finds_forM (ScoreFormula.finds_check limits target) components

/-- The check of a rollup only appends its errors. -/
theorem RollupFormula.finds_check (rollup : RollupFormula) :
    Finds (rollup.check limits target) (rollup.errors limits target) := by
  have empty := finds_reportIf (rollup.components = []) (.structural .missingScoreFormulas)
  have count := finds_checkSize limits.scoreFormulas .scoreFormulas rollup.components.length
  have components := finds_components limits target rollup.components
  have missing := finds_reportIf (rollup.expression = "") (.structural .missingRollupExpression)
  have length := finds_checkLength limits.expressionBytes .rollupExpression rollup.expression
  have inOrder := empty.andThen <| count.andThen <| components.andThen <| missing.andThen length
  exact inOrder.of_eq (by simp only [errors, List.append_assoc])

/-- The check of any formula, or of its absence, only appends its errors. -/
theorem finds_checkFormula (formula : Option Formula) :
    Finds (checkFormula limits target formula) (formulaErrors limits target formula) := by
  cases formula with
  | none => exact finds_reportAll _
  | some formula =>
      cases formula with
      | single formula => exact formula.finds_check limits target
      | rollup rollup => exact rollup.finds_check limits target

end Formulas

/-! ## Types -/

/-- The errors of a score type, or of its absence. The domain of an integer score needs two values;
thresholds over a smaller one are not judged. -/
def typeErrors (limits : Limits) : Option ScoreType → List ValidationError
  | some (.percent type) =>
      sizeErrors limits.thresholds .thresholds type.thresholds.length ++
        numberThresholdErrors percentDomain type.thresholds
  | some (.integer type) =>
      sizeErrors limits.thresholds .thresholds type.thresholds.length ++
        if type.domain.min < type.domain.max then
          numberThresholdErrors type.domain type.thresholds
        else [.structural (.invalidIntegerBounds type.domain)]
  | some (.boolean type) =>
      sizeErrors limits.thresholds .thresholds type.thresholds.length ++
        booleanThresholdErrors type.thresholds
  | none => [.structural .missingType]

/-- The check of a type, or of its absence, only appends its errors. -/
theorem finds_checkType (limits : Limits) (type : Option ScoreType) :
    Finds (checkType limits type) (typeErrors limits type) := by
  cases type with
  | none => exact finds_reportAll _
  | some type =>
      have count := finds_checkSize limits.thresholds .thresholds
      cases type with
      | percent type => exact (count type.thresholds.length).andThen (finds_reportAll _)
      | integer type =>
          refine (count type.thresholds.length).andThen ?_
          split
          · exact finds_reportAll _
          · exact finds_reportAll _
      | boolean type => exact (count type.thresholds.length).andThen (finds_reportAll _)

/-! ## Targets and what is relative to them -/

/-- The errors of a target under a parent. -/
def targetErrors (limits : Limits) (parent : String) (target : Selector) : List ValidationError :=
  lengthErrors limits.patternBytes .targetPattern target.pattern ++
    errorsOf (parseTarget parent target.pattern)

/-- The errors of what is judged relative to a target. When the target is rejected there are
none. -/
def relativeErrors (parent : String) (target : Selector)
    (errors : Pattern → List ValidationError) : List ValidationError :=
  match parseTarget parent target.pattern with
  | .ok target => errors target
  | .error _ => []

/-- The errors of a score pattern relative to a target, its length apart. -/
def scorePatternErrors (target : Pattern) (pattern : String) : List ValidationError :=
  errorsOf (applyToTarget target pattern) ++ wildcardTailErrors .scorePattern pattern

section Relative

variable (limits : Limits) (parent : String) (target : Selector)

/-- The reading of a target is reported, or else the formula that is relative to it. -/
theorem finds_checkRelative (formula : Option Formula) :
    Finds (checkRelative limits formula (parseTarget parent target.pattern))
      (errorsOf (parseTarget parent target.pattern) ++
        relativeErrors parent target fun accepted => formulaErrors limits accepted formula) := by
  rw [relativeErrors]
  cases parseTarget parent target.pattern with
  | ok accepted => exact finds_checkFormula limits accepted formula
  | error rejection => exact finds_reportAll _

/-- The check of a score pattern only appends its errors. -/
theorem finds_checkScorePattern (accepted : Pattern) (pattern : String) :
    Finds (checkScorePattern accepted pattern) (scorePatternErrors accepted pattern) :=
  (finds_reportFailure _).andThen (finds_checkWildcardTail _ _)

/-- The check of score patterns only appends the errors of each, or nothing when the target is
rejected. -/
theorem finds_checkScorePatterns (patterns : List String) :
    Finds (checkScorePatterns patterns (parseTarget parent target.pattern))
      (relativeErrors parent target fun accepted =>
        patterns.flatMap (scorePatternErrors accepted)) := by
  rw [relativeErrors]
  cases parseTarget parent target.pattern with
  | ok accepted => exact finds_forM (finds_checkScorePattern accepted) patterns
  | error rejection => exact finds_pure

end Relative

/-! ## Documents -/

/-- Whether a report records a rejection just when there are errors: as a single event, with their
number. -/
structure Report.RecordsRejection (kind : DocumentKind) (parent id : String) (report : Report) :
    Prop where
  accepted : report.errors = [] → report.log = []
  rejected : report.errors ≠ [] → ∃ event, report.log = [event] ∧
    event.message = "definition rejected" ∧
    event = .rejected kind parent id report.errors.length

/-- A check that finds errors and concludes with the record of a rejection, if nothing is recorded
before. -/
def Concludes (check : Check) (kind : DocumentKind) (parent id : String)
    (found : List ValidationError) : Prop :=
  ∀ errors, (check.run { errors }).2.errors = errors ++ found ∧
    (check.run { errors }).2.RecordsRejection kind parent id

section Conclusion

variable {kind : DocumentKind} {parent id : String} {first second : Check}
  {found more : List ValidationError}

/-- The record is made of the errors so far, whatever check they come from. -/
theorem concludes_recordRejection (kind : DocumentKind) (parent id : String) :
    Concludes (recordRejection kind parent id) kind parent id [] := by
  intro errors
  rw [List.append_nil]
  change (if errors = [] then _ else _ : Report).errors = errors ∧
    (if errors = [] then _ else _ : Report).RecordsRejection kind parent id
  by_cases none : errors = []
  · rw [if_pos none]
    exact ⟨rfl, fun _ => rfl, fun some => absurd none some⟩
  · rw [if_neg none]
    exact ⟨rfl, fun empty => absurd empty none, fun _ => ⟨_, rfl, rfl, rfl⟩⟩

/-- A conclusion after another check counts what that has found. -/
theorem Finds.concludes (finds : Finds first found)
    (goesOn : Concludes second kind parent id more) :
    Concludes (do first; second) kind parent id (found ++ more) := by
  intro errors
  change (second.run (first.run { errors }).2).2.errors = _ ∧ Report.RecordsRejection _ _ _
    (second.run (first.run { errors }).2).2
  rw [finds, ← List.append_assoc]
  exact goesOn (errors ++ found)

/-- A check that concludes with one list concludes with what is the same list. -/
theorem Concludes.of_eq (concludes : Concludes first kind parent id found) (same : found = more) :
    Concludes first kind parent id more := by
  rwa [← same]

end Conclusion

/-- The errors of a score definition under a parent. -/
def ScoreDefinition.errors (limits : Limits) (parent : String) (definition : ScoreDefinition) :
    List ValidationError :=
  targetErrors limits parent definition.target ++
    relativeErrors parent definition.target (fun target =>
      formulaErrors limits target definition.formula) ++
    typeErrors limits definition.type

/-- The errors of the score patterns of a card. The sizes are judged whether or not the target is
accepted; a card without score patterns has just the one error. -/
def scorePatternsErrors (limits : Limits) (parent : String) (card : ScoreCard) :
    List ValidationError :=
  if card.scorePatterns = [] then [.structural .missingScorePatterns]
  else
    sizeErrors limits.scorePatterns .scorePatterns card.scorePatterns.length ++
      card.scorePatterns.flatMap (lengthErrors limits.patternBytes .scorePattern) ++
      relativeErrors parent card.target (fun target =>
        card.scorePatterns.flatMap (scorePatternErrors target))

/-- The errors of a score card under a parent. -/
def ScoreCard.errors (limits : Limits) (parent : String) (card : ScoreCard) :
    List ValidationError :=
  targetErrors limits parent card.target ++ scorePatternsErrors limits parent card

section Documents

variable (limits : Limits) (parent : String)

/-- The checks of a score definition end in a record. -/
theorem ScoreDefinition.concludes_check (definition : ScoreDefinition) :
    Concludes (definition.check limits parent) .scoreDefinition parent definition.id
      (definition.errors limits parent) := by
  have length := finds_checkLength limits.patternBytes .targetPattern definition.target.pattern
  have relative := finds_checkRelative limits parent definition.target definition.formula
  have type := finds_checkType limits definition.type
  have inOrder := length.concludes <| relative.concludes <| type.concludes <|
    concludes_recordRejection .scoreDefinition parent definition.id
  exact inOrder.of_eq (by simp only [errors, targetErrors, List.append_assoc, List.append_nil])

/-- Both ways through the score patterns of a card end in a record. -/
theorem ScoreCard.concludes_check (card : ScoreCard) :
    Concludes (card.check limits parent) .scoreCard parent card.id (card.errors limits parent) := by
  have length := finds_checkLength limits.patternBytes .targetPattern card.target.pattern
  have parsed := finds_reportFailure (parseTarget parent card.target.pattern)
  have record := concludes_recordRejection .scoreCard parent card.id
  have patterns : Concludes
      (if card.scorePatterns = [] then do
          report (.structural .missingScorePatterns)
          recordRejection .scoreCard parent card.id
        else do
          checkSize limits.scorePatterns .scorePatterns card.scorePatterns.length
          forM card.scorePatterns (checkLength limits.patternBytes .scorePattern)
          checkScorePatterns card.scorePatterns (parseTarget parent card.target.pattern)
          recordRejection .scoreCard parent card.id)
      .scoreCard parent card.id (scorePatternsErrors limits parent card) := by
    rw [scorePatternsErrors]
    split
    · exact (finds_reportAll [_]).concludes record
    · have count := finds_checkSize limits.scorePatterns .scorePatterns card.scorePatterns.length
      have lengths := finds_forM (finds_checkLength limits.patternBytes .scorePattern)
        card.scorePatterns
      have relative := finds_checkScorePatterns parent card.target card.scorePatterns
      have inOrder := count.concludes <| lengths.concludes <| relative.concludes record
      exact inOrder.of_eq (by simp only [List.append_assoc, List.append_nil])
  exact (length.concludes (parsed.concludes patterns)).of_eq
    (by simp only [errors, targetErrors, List.append_assoc])

/-- The errors of a score definition are those that its checks find. -/
@[simp]
theorem ScoreDefinition.errors_validate (definition : ScoreDefinition) :
    (definition.validate limits parent).errors = definition.errors limits parent :=
  (definition.concludes_check limits parent []).1

/-- The errors of a score card are those that its checks find. -/
@[simp]
theorem ScoreCard.errors_validate (card : ScoreCard) :
    (card.validate limits parent).errors = card.errors limits parent :=
  (card.concludes_check limits parent []).1

/-- The rejection of a score definition is recorded once. -/
theorem ScoreDefinition.validate_recordsRejection (definition : ScoreDefinition) :
    (definition.validate limits parent).RecordsRejection .scoreDefinition parent definition.id :=
  (definition.concludes_check limits parent []).2

/-- The rejection of a score card is recorded once. -/
theorem ScoreCard.validate_recordsRejection (card : ScoreCard) :
    (card.validate limits parent).RecordsRejection .scoreCard parent card.id :=
  (card.concludes_check limits parent []).2

end Documents

end ScoringRules
