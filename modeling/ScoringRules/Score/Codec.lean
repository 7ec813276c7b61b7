import ScoringRules.Json
import ScoringRules.Score.Definition

/-!
# Score definitions as JSON values

For each type of a score definition: its field names in order, which of its fields have defaults,
and the names of its cases. Ranges have to be given with both ends, thresholds with what they
classify; every other field has a default.
-/

namespace ScoringRules

open Json

instance : Codec Selector where
  encode selector :=
    .object [("pattern", Codec.encode selector.pattern), ("filter", Codec.encode selector.filter)]
  decode? json := do
    let members ← json.record? ["pattern", "filter"]
    return {
      pattern := ← optional? members "pattern" ""
      filter := ← optional? members "filter" "" }

namespace Severity

/-- Every severity. -/
def all : List Severity := [unspecified, ok, warning, alert]

/-- The name of a severity in documents. -/
def label : Severity → String
  | unspecified => "SEVERITY_UNSPECIFIED"
  | ok => "OK"
  | warning => "WARNING"
  | alert => "ALERT"

/-- The severity with a name. -/
def ofLabel? (name : String) : Option Severity := all.find? fun severity => severity.label = name

end Severity

/-- A severity is written as its name, and also read as a choice without content. -/
instance : Codec Severity where
  encode severity := .string severity.label
  decode?
    | .string name => Severity.ofLabel? name
    | .object [(name, .null)] => Severity.ofLabel? name
    | _ => none

instance : Codec NumberRange where
  encode range := .object [("min", Codec.encode range.min), ("max", Codec.encode range.max)]
  decode? json := do
    let members ← json.record? ["min", "max"]
    return {
      min := ← required? members "min"
      max := ← required? members "max" }

instance : Codec NumberThreshold where
  encode threshold :=
    .object [("range", Codec.encode threshold.range), ("severity", Codec.encode threshold.severity)]
  decode? json := do
    let members ← json.record? ["range", "severity"]
    return {
      range := ← required? members "range"
      severity := ← optional? members "severity" .unspecified }

instance : Codec BooleanThreshold where
  encode threshold :=
    .object [("value", Codec.encode threshold.value), ("severity", Codec.encode threshold.severity)]
  decode? json := do
    let members ← json.record? ["value", "severity"]
    return {
      value := ← required? members "value"
      severity := ← optional? members "severity" .unspecified }

instance : Codec ScoreFormula where
  encode formula :=
    .object [
      ("artifact", Codec.encode formula.artifact),
      ("score_expression", Codec.encode formula.expression),
      ("reference_id", Codec.encode formula.referenceId)]
  decode? json := do
    let members ← json.record? ["artifact", "score_expression", "reference_id"]
    return {
      artifact := ← optional? members "artifact" {}
      expression := ← optional? members "score_expression" ""
      referenceId := ← optional? members "reference_id" "" }

instance : Codec RollupFormula where
  encode formula :=
    .object [
      ("score_formulas", Codec.encode formula.components),
      ("rollup_expression", Codec.encode formula.expression)]
  decode? json := do
    let members ← json.record? ["score_formulas", "rollup_expression"]
    return {
      components := ← optional? members "score_formulas" []
      expression := ← optional? members "rollup_expression" "" }

instance : Codec Formula where
  encode
    | .single formula => .object [("score_formula", Codec.encode formula)]
    | .rollup formula => .object [("rollup_formula", Codec.encode formula)]
  decode? json :=
    match json.variant? with
    | some ("score_formula", content) => Formula.single <$> Codec.decode? content
    | some ("rollup_formula", content) => Formula.rollup <$> Codec.decode? content
    | _ => none

instance : Codec PercentType where
  encode type := .object [("thresholds", Codec.encode type.thresholds)]
  decode? json := do
    let members ← json.record? ["thresholds"]
    return { thresholds := ← optional? members "thresholds" [] }

instance : Codec IntegerType where
  encode type :=
    .object [
      ("min_value", Codec.encode type.min),
      ("max_value", Codec.encode type.max),
      ("thresholds", Codec.encode type.thresholds)]
  decode? json := do
    let members ← json.record? ["min_value", "max_value", "thresholds"]
    return {
      min := ← optional? members "min_value" 0
      max := ← optional? members "max_value" 0
      thresholds := ← optional? members "thresholds" [] }

instance : Codec BooleanType where
  encode type := .object [("thresholds", Codec.encode type.thresholds)]
  decode? json := do
    let members ← json.record? ["thresholds"]
    return { thresholds := ← optional? members "thresholds" [] }

instance : Codec ScoreType where
  encode
    | .percent type => .object [("percent", Codec.encode type)]
    | .integer type => .object [("integer", Codec.encode type)]
    | .boolean type => .object [("boolean", Codec.encode type)]
  decode? json :=
    match json.variant? with
    | some ("percent", content) => ScoreType.percent <$> Codec.decode? content
    | some ("integer", content) => ScoreType.integer <$> Codec.decode? content
    | some ("boolean", content) => ScoreType.boolean <$> Codec.decode? content
    | _ => none

instance : Codec ScoreDefinition where
  encode definition :=
    .object [
      ("id", Codec.encode definition.id),
      ("display_name", Codec.encode definition.displayName),
      ("description", Codec.encode definition.description),
      ("uri", Codec.encode definition.uri),
      ("uri_display_name", Codec.encode definition.uriDisplayName),
      ("target_resource", Codec.encode definition.target),
      ("formula", Codec.encode definition.formula),
      ("type", Codec.encode definition.type)]
  decode? json := do
    let members ← json.record? ["id", "display_name", "description", "uri", "uri_display_name",
      "target_resource", "formula", "type"]
    return {
      id := ← optional? members "id" ""
      displayName := ← optional? members "display_name" ""
      description := ← optional? members "description" ""
      uri := ← optional? members "uri" ""
      uriDisplayName := ← optional? members "uri_display_name" ""
      target := ← optional? members "target_resource" {}
      formula := ← optional? members "formula" none
      type := ← optional? members "type" none }

instance : Codec ScoreCard where
  encode card :=
    .object [
      ("id", Codec.encode card.id),
      ("display_name", Codec.encode card.displayName),
      ("description", Codec.encode card.description),
      ("uri", Codec.encode card.uri),
      ("uri_display_name", Codec.encode card.uriDisplayName),
      ("target_resource", Codec.encode card.target),
      ("score_patterns", Codec.encode card.scorePatterns)]
  decode? json := do
    let members ← json.record? ["id", "display_name", "description", "uri", "uri_display_name",
      "target_resource", "score_patterns"]
    return {
      id := ← optional? members "id" ""
      displayName := ← optional? members "display_name" ""
      description := ← optional? members "description" ""
      uri := ← optional? members "uri" ""
      uriDisplayName := ← optional? members "uri_display_name" ""
      target := ← optional? members "target_resource" {}
      scorePatterns := ← optional? members "score_patterns" [] }

end ScoringRules
