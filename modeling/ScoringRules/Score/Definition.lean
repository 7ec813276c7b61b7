import ScoringRules.Threshold.Coverage

/-!
# Score definitions

A score definition says how one score is computed for the resources that match a target pattern, and
which severities its values have. A score card groups scores. Expressions and filters are opaque
texts. A formula or type that is not given is absent; giving two of them is not possible.

Absent fields of a document take the defaults given here.
-/

namespace ScoringRules

/-- A pattern with an opaque filter. -/
structure Selector where
  pattern : String := ""
  filter : String := ""
deriving DecidableEq, Repr

inductive Severity where
  | unspecified
  | ok
  | warning
  | alert
deriving DecidableEq, Repr

structure NumberRange where
  min : Int32
  max : Int32
deriving DecidableEq, Repr

def NumberRange.interval (range : NumberRange) : Interval := ⟨range.min.toInt, range.max.toInt⟩

/-- Gives the scores in a range a severity. -/
structure NumberThreshold where
  range : NumberRange
  severity : Severity := .unspecified
deriving DecidableEq, Repr

/-- Gives a boolean score a severity. -/
structure BooleanThreshold where
  value : Bool
  severity : Severity := .unspecified
deriving DecidableEq, Repr

/-- Computes a score from one artifact. -/
structure ScoreFormula where
  /-- The artifact, by a pattern relative to the scored resource. -/
  artifact : Selector := {}
  expression : String := ""
  /-- The name under which a rollup expression refers to the score. -/
  referenceId : String := ""
deriving DecidableEq, Repr

/-- Combines the scores of several formulas. -/
structure RollupFormula where
  components : List ScoreFormula := []
  expression : String := ""
deriving DecidableEq, Repr

/-- How a score is computed. -/
inductive Formula where
  | single (formula : ScoreFormula)
  | rollup (formula : RollupFormula)
deriving DecidableEq, Repr

/-- The formulas that compute a score from one artifact each. -/
def Formula.components : Formula → List ScoreFormula
  | single formula => [formula]
  | rollup formula => formula.components

structure PercentType where
  thresholds : List NumberThreshold := []
deriving DecidableEq, Repr

structure IntegerType where
  min : Int32 := 0
  max : Int32 := 0
  thresholds : List NumberThreshold := []
deriving DecidableEq, Repr

def IntegerType.domain (type : IntegerType) : Interval := ⟨type.min.toInt, type.max.toInt⟩

structure BooleanType where
  thresholds : List BooleanThreshold := []
deriving DecidableEq, Repr

inductive ScoreType where
  | percent (type : PercentType)
  | integer (type : IntegerType)
  | boolean (type : BooleanType)
deriving DecidableEq, Repr

/-- How a score is computed for the resources that match a target. -/
structure ScoreDefinition where
  id : String := ""
  displayName : String := ""
  description : String := ""
  uri : String := ""
  uriDisplayName : String := ""
  /-- The resources that are scored, by a pattern relative to a parent. -/
  target : Selector := {}
  formula : Option Formula := none
  type : Option ScoreType := none
deriving DecidableEq, Repr

/-- The formulas of a definition that compute a score from one artifact each. -/
def ScoreDefinition.components (definition : ScoreDefinition) : List ScoreFormula :=
  match definition.formula with
  | none => []
  | some formula => formula.components

/-- Groups scores of the resources that match a target. -/
structure ScoreCard where
  id : String := ""
  displayName : String := ""
  description : String := ""
  uri : String := ""
  uriDisplayName : String := ""
  /-- The resources that the card is for, by a pattern relative to a parent. -/
  target : Selector := {}
  /-- The artifacts that hold the scores, by patterns relative to the resource. -/
  scorePatterns : List String := []
deriving DecidableEq, Repr

end ScoringRules
