import ScoringRules.Json
import ScoringRules.Validation.Definition

/-!
# Configuration

The configuration sets the size limits for definitions. Each limit is at least one and at most a
hard maximum, also when limits are not enforced.

- `Config.limits` are the limits that a configuration enforces
- `Config.invalid?` finds the first limit that is out of its range
-/

namespace ScoringRules

structure ValidationSettings where
  enforceLimits : Bool := true
  maxScoreFormulas : UInt64 := 64
  maxScorePatterns : UInt64 := 64
  maxThresholds : UInt64 := 64
  maxExpressionBytes : UInt64 := 16384
  maxPatternBytes : UInt64 := 1024
deriving DecidableEq, Repr

structure Config where
  validation : ValidationSettings := {}
deriving DecidableEq, Repr

/-- A setting that has a range. -/
inductive Setting where
  | maxScoreFormulas
  | maxScorePatterns
  | maxThresholds
  | maxExpressionBytes
  | maxPatternBytes
deriving DecidableEq, Repr

namespace Setting

def all : List Setting :=
  [maxScoreFormulas, maxScorePatterns, maxThresholds, maxExpressionBytes, maxPatternBytes]

def label : Setting → String
  | maxScoreFormulas => "validation.max_score_formulas"
  | maxScorePatterns => "validation.max_score_patterns"
  | maxThresholds => "validation.max_thresholds"
  | maxExpressionBytes => "validation.max_expression_bytes"
  | maxPatternBytes => "validation.max_pattern_bytes"

def maximum : Setting → Nat
  | maxScoreFormulas => 1024
  | maxScorePatterns => 1024
  | maxThresholds => 1024
  | maxExpressionBytes => 1048576
  | maxPatternBytes => 4096

end Setting

namespace ValidationSettings

def value (settings : ValidationSettings) : Setting → Nat
  | .maxScoreFormulas => settings.maxScoreFormulas.toNat
  | .maxScorePatterns => settings.maxScorePatterns.toNat
  | .maxThresholds => settings.maxThresholds.toNat
  | .maxExpressionBytes => settings.maxExpressionBytes.toNat
  | .maxPatternBytes => settings.maxPatternBytes.toNat

/-- The limits that the settings enforce. -/
def limits (settings : ValidationSettings) : Limits :=
  if settings.enforceLimits then
    { scoreFormulas := some settings.maxScoreFormulas.toNat
      scorePatterns := some settings.maxScorePatterns.toNat
      thresholds := some settings.maxThresholds.toNat
      expressionBytes := some settings.maxExpressionBytes.toNat
      patternBytes := some settings.maxPatternBytes.toNat }
  else .unbounded

end ValidationSettings

/-- Why a configuration is not valid. -/
inductive InvalidConfig where
  | pathTooLong
  | pathComponentTooLong
  | fileTooLarge
  | notUtf8
  | zero (setting : Setting)
  | aboveMaximum (setting : Setting)
deriving DecidableEq, Repr

def InvalidConfig.message : InvalidConfig → String
  | pathTooLong => "invalid config: config path exceeds max length"
  | pathComponentTooLong => "invalid config: config path component too long"
  | fileTooLarge => "invalid config: config file exceeds size limit"
  | notUtf8 => "invalid config: config file must be utf-8"
  | zero setting => "invalid config: " ++ setting.label ++ " must be greater than zero"
  | aboveMaximum setting =>
      "invalid config: " ++ setting.label ++ " must be at most " ++ setting.maximum.repr

/-- What is wrong with the value of a setting, if anything is. -/
def Setting.invalid? (setting : Setting) (value : Nat) : Option InvalidConfig :=
  if value = 0 then some (.zero setting)
  else if setting.maximum < value then some (.aboveMaximum setting)
  else none

namespace Config

def limits (config : Config) : Limits := config.validation.limits

/-- The first setting that is out of its range, whether or not limits are enforced. -/
def invalid? (config : Config) : Option InvalidConfig :=
  Setting.all.findSome? fun setting => setting.invalid? (config.validation.value setting)

end Config

/-- The names of the settings in documents, in order. -/
def ValidationSettings.fields : List String :=
  ["enforce_limits", "max_score_formulas", "max_score_patterns", "max_thresholds",
    "max_expression_bytes", "max_pattern_bytes"]

instance : Codec ValidationSettings where
  encode settings :=
    .object [
      ("enforce_limits", Codec.encode settings.enforceLimits),
      ("max_score_formulas", Codec.encode settings.maxScoreFormulas),
      ("max_score_patterns", Codec.encode settings.maxScorePatterns),
      ("max_thresholds", Codec.encode settings.maxThresholds),
      ("max_expression_bytes", Codec.encode settings.maxExpressionBytes),
      ("max_pattern_bytes", Codec.encode settings.maxPatternBytes)]
  decode? json := do
    let members ← json.record? ValidationSettings.fields
    return {
      enforceLimits := ← Json.optional? members "enforce_limits" true
      maxScoreFormulas := ← Json.optional? members "max_score_formulas" 64
      maxScorePatterns := ← Json.optional? members "max_score_patterns" 64
      maxThresholds := ← Json.optional? members "max_thresholds" 64
      maxExpressionBytes := ← Json.optional? members "max_expression_bytes" 16384
      maxPatternBytes := ← Json.optional? members "max_pattern_bytes" 1024 }

instance : Codec Config where
  encode config := .object [("validation", Codec.encode config.validation)]
  decode? json := do
    let members ← json.record? ["validation"]
    return { validation := ← Json.optional? members "validation" {} }

end ScoringRules
