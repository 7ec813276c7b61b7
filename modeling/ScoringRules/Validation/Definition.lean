import ScoringRules.Matching
import ScoringRules.Validation.Error

/-!
# Validation of definitions

A definition is judged by checks that share one report. Each check adds the errors that it finds at
the end of those found so far, so no check hides what another one finds, with one exception:
formulas and score patterns are judged relative to the target, so a rejected target leaves them
unjudged. On its way out, validation records the rejection of a definition that has errors.

Limits cap the sizes of a definition: counts of list entries, and lengths of texts in UTF-8 bytes. A
limit that is not set caps nothing, and a size equal to its limit is fine.

- `Limits` are the caps, `Check` is a step of validation
- `parseTarget` and `applyToTarget` read a target and a pattern that is relative to it
- `ScoreDefinition.check` and `ScoreCard.check` run the checks of a document
- `ScoreDefinition.validate` and `ScoreCard.validate` start them with an empty report
-/

namespace ScoringRules

/-- The caps that are enforced. Without any, nothing is. -/
structure Limits where
  scoreFormulas : Option Nat := none
  scorePatterns : Option Nat := none
  thresholds : Option Nat := none
  expressionBytes : Option Nat := none
  patternBytes : Option Nat := none
deriving DecidableEq, Repr

/-- The limits that cap nothing. -/
def Limits.unbounded : Limits := {}

/-! ## Targets -/

/-- Reads a target that is relative to a parent. It has nothing to refer to, so references have no
place in it. -/
def parseTarget (parent pattern : String) : Except ValidationError Pattern := do
  let target ← (Pattern.parse (parent ++ "/" ++ pattern)).mapError .parse
  if target.HasReference then .error (.reference (.unsubstituted pattern)) else .ok target

/-- The pattern that a pattern relative to `target` stands for. It has to start with a reference,
and to contain none after substitution. -/
def applyToTarget (target : Pattern) (pattern : String) : Except ValidationError Pattern := do
  match ← (referencedLevel pattern).mapError .parse with
  | none => .error (.reference (.missing pattern))
  | some _ =>
      if LeadsWithReference pattern then
        let resolved ← (substitute pattern target).mapError .reference
        let applied ← (Pattern.parse resolved).mapError .parse
        if applied.HasReference then .error (.reference (.unsubstituted pattern)) else .ok applied
      else .error (.reference (.missing pattern))

/-- A pattern that ends in a wildcard. -/
def HasWildcardTail (pattern : String) : Prop := "/-".toList <:+ pattern.toList

instance (pattern : String) : Decidable (HasWildcardTail pattern) :=
  inferInstanceAs (Decidable (_ <:+ _))

/-! ## Thresholds -/

def numberThresholdErrors (domain : Interval) (thresholds : List NumberThreshold) :
    List ValidationError :=
  (Threshold.numberErrors domain (thresholds.map fun threshold => threshold.range.interval)).map
    .threshold

def booleanThresholdErrors (thresholds : List BooleanThreshold) : List ValidationError :=
  (Threshold.booleanErrors (thresholds.map BooleanThreshold.value)).map fun error =>
    .threshold (.coverage error)

/-! ## Checks -/

/-- What validation finds: the errors in order, and the record of a rejection. -/
structure Report where
  errors : List ValidationError := []
  log : List Event := []
deriving DecidableEq

/-- A step of validation, which goes on with the report of the steps before it. -/
abbrev Check : Type := StateM Report Unit

def reportAll (errors : List ValidationError) : Check :=
  modify fun report => { report with errors := report.errors ++ errors }

def report (error : ValidationError) : Check := reportAll [error]

def reportIf (condition : Prop) [Decidable condition] (error : ValidationError) : Check :=
  if condition then report error else pure ()

/-- Reports why a computation fails, if it does. -/
def reportFailure {α : Type} : Except ValidationError α → Check
  | .ok _ => pure ()
  | .error error => report error

/-- Records the rejection of a document that has errors. -/
def recordRejection (kind : DocumentKind) (parent id : String) : Check :=
  modify fun report =>
    if report.errors = [] then report
    else { report with log := report.log ++ [.rejected kind parent id report.errors.length] }

def checkSize (limit : Option Nat) (field : Field) (actual : Nat) : Check :=
  match limit with
  | none => pure ()
  | some limit => reportIf (limit < actual) (.structural (.limitExceeded field limit actual))

def checkLength (limit : Option Nat) (field : Field) (text : String) : Check :=
  checkSize limit field text.utf8ByteSize

def checkWildcardTail (field : Field) (pattern : String) : Check :=
  reportIf (HasWildcardTail pattern) (.structural (.wildcardTail field pattern))

def ScoreFormula.check (limits : Limits) (target : Pattern) (formula : ScoreFormula) : Check := do
  let pattern := formula.artifact.pattern
  checkLength limits.patternBytes .artifactPattern pattern
  reportFailure (applyToTarget target pattern)
  checkWildcardTail .artifactPattern pattern
  reportIf (formula.expression = "") (.structural .missingScoreExpression)
  checkLength limits.expressionBytes .scoreExpression formula.expression
  reportIf ('-' ∈ formula.referenceId.toList)
    (.structural (.invalidReferenceId formula.referenceId))

def RollupFormula.check (limits : Limits) (target : Pattern) (rollup : RollupFormula) : Check := do
  reportIf (rollup.components = []) (.structural .missingScoreFormulas)
  checkSize limits.scoreFormulas .scoreFormulas rollup.components.length
  forM rollup.components fun formula => formula.check limits target
  reportIf (rollup.expression = "") (.structural .missingRollupExpression)
  checkLength limits.expressionBytes .rollupExpression rollup.expression

def checkFormula (limits : Limits) (target : Pattern) : Option Formula → Check
  | some (.single formula) => formula.check limits target
  | some (.rollup rollup) => rollup.check limits target
  | none => report (.structural .missingFormula)

/-- Judges a score type, or its absence. The domain of an integer score needs two values; thresholds
over a smaller one are not judged. -/
def checkType (limits : Limits) : Option ScoreType → Check
  | some (.percent type) => do
      checkSize limits.thresholds .thresholds type.thresholds.length
      reportAll (numberThresholdErrors percentDomain type.thresholds)
  | some (.integer type) => do
      checkSize limits.thresholds .thresholds type.thresholds.length
      if type.domain.min < type.domain.max then
        reportAll (numberThresholdErrors type.domain type.thresholds)
      else report (.structural (.invalidIntegerBounds type.domain))
  | some (.boolean type) => do
      checkSize limits.thresholds .thresholds type.thresholds.length
      reportAll (booleanThresholdErrors type.thresholds)
  | none => report (.structural .missingType)

/-- Judges a formula relative to a target, unless the target is rejected. -/
def checkRelative (limits : Limits) (formula : Option Formula) :
    Except ValidationError Pattern → Check
  | .ok target => checkFormula limits target formula
  | .error error => report error

def ScoreDefinition.check (limits : Limits) (parent : String) (definition : ScoreDefinition) :
    Check := do
  checkLength limits.patternBytes .targetPattern definition.target.pattern
  checkRelative limits definition.formula (parseTarget parent definition.target.pattern)
  checkType limits definition.type
  recordRejection .scoreDefinition parent definition.id

/-- Judges a score pattern relative to a target, its length apart. -/
def checkScorePattern (target : Pattern) (pattern : String) : Check := do
  reportFailure (applyToTarget target pattern)
  checkWildcardTail .scorePattern pattern

/-- Judges score patterns relative to a target, unless the target is rejected. -/
def checkScorePatterns (patterns : List String) : Except ValidationError Pattern → Check
  | .ok target => forM patterns (checkScorePattern target)
  | .error _ => pure ()

/-- Sizes are judged whether or not the target is accepted. A card without score patterns has
nothing more to be judged, and is recorded at once. -/
def ScoreCard.check (limits : Limits) (parent : String) (card : ScoreCard) : Check := do
  let target := parseTarget parent card.target.pattern
  checkLength limits.patternBytes .targetPattern card.target.pattern
  reportFailure target
  if card.scorePatterns = [] then
    report (.structural .missingScorePatterns)
    recordRejection .scoreCard parent card.id
  else
    checkSize limits.scorePatterns .scorePatterns card.scorePatterns.length
    forM card.scorePatterns (checkLength limits.patternBytes .scorePattern)
    checkScorePatterns card.scorePatterns target
    recordRejection .scoreCard parent card.id

def ScoreDefinition.validate (limits : Limits) (parent : String) (definition : ScoreDefinition) :
    Report :=
  ((definition.check limits parent).run {}).2

def ScoreCard.validate (limits : Limits) (parent : String) (card : ScoreCard) : Report :=
  ((card.check limits parent).run {}).2

end ScoringRules
