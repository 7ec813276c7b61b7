import ScoringRules.Reference
import ScoringRules.Threshold.Coverage

/-!
# Validation errors

A definition may have many errors at once. Each is an address that does not parse, a reference that
cannot be followed, a set of thresholds that does not cover its domain, or something missing or
excessive in the structure of the document.
-/

namespace ScoringRules

/-- A part of a document that errors speak about. -/
inductive Field where
  | targetPattern
  | scoreFormulas
  | artifactPattern
  | scoreExpression
  | rollupExpression
  | scorePatterns
  | scorePattern
  | thresholds
deriving DecidableEq, Repr

def Field.label : Field → String
  | targetPattern => "target_resource.pattern"
  | scoreFormulas => "rollup_formula.score_formulas"
  | artifactPattern => "score_formula.artifact.pattern"
  | scoreExpression => "score_formula.score_expression"
  | rollupExpression => "rollup_formula.rollup_expression"
  | scorePatterns => "score_patterns"
  | scorePattern => "score_pattern"
  | thresholds => "thresholds"

/-- What is wrong with the structure of a document. -/
inductive StructuralError where
  | missingFormula
  | missingType
  | missingScoreFormulas
  | missingRollupExpression
  | missingScoreExpression
  | missingScorePatterns
  /-- The domain of an integer score holds fewer than two values. -/
  | invalidIntegerBounds (domain : Interval)
  | invalidReferenceId (referenceId : String)
  | wildcardTail (field : Field) (pattern : String)
  | limitExceeded (field : Field) (limit actual : Nat)
deriving DecidableEq, Repr

def StructuralError.message : StructuralError → String
  | missingFormula => "missing formula, either 'score_formula' or 'rollup_formula' should be set"
  | missingType => "missing type, either of 'percent', 'integer' or 'boolean' should be set"
  | missingScoreFormulas => "missing rollup_formula.score_formulas"
  | missingRollupExpression => "missing rollup_formula.rollup_expression"
  | missingScoreExpression => "missing score_formula.score_expression"
  | missingScorePatterns => "missing score_patterns"
  | invalidIntegerBounds domain =>
      "invalid min_value(" ++ domain.min.repr ++ ") and max_value(" ++ domain.max.repr ++
        "), min_value should be less than max_value"
  | invalidReferenceId referenceId =>
      "invalid score_formula.reference_id: " ++ referenceId ++ ", it should not contain hyphens '-'"
  | wildcardTail field pattern =>
      "invalid " ++ field.label ++ " : \"" ++ pattern ++
        "\", it should end with a resourceID and not a \"-\""
  | limitExceeded field limit actual =>
      field.label ++ " exceeds limit: " ++ actual.repr ++ " > " ++ limit.repr

inductive ValidationError where
  | parse (error : ParseError)
  | reference (error : ReferenceError)
  | threshold (error : ThresholdError)
  | structural (error : StructuralError)
deriving DecidableEq, Repr

def ValidationError.message : ValidationError → String
  | parse error => error.message
  | reference error => error.message
  | threshold error => error.message
  | structural error => error.message

end ScoringRules
