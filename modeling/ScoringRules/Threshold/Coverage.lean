import ScoringRules.Threshold.Interval

/-!
# Coverage by thresholds

The thresholds of a numeric score are to partition its domain: each is a proper interval inside the
domain, and each score lies in exactly one. The thresholds of a boolean score are to classify each
of the two values once. Having no numeric thresholds at all is fine.

- `numberErrors` first judges each range on its own. Only when all are proper does it compare
  neighbours in the order of their lower ends, and then the outermost ends with those of the domain.
- `booleanErrors` walks the values with two flags, reports each value whose flag is raised already,
  and then whether a flag is not raised
-/

namespace ScoringRules

/-- Why the range of a threshold is not proper. -/
inductive RangeError where
  | inverted (range : Interval)
  /-- One end lies outside the domain. -/
  | outOfBounds (range : Interval) (bound : Bound) (domain : Interval)
deriving DecidableEq, Repr

def RangeError.message : RangeError → String
  | inverted range =>
      "invalid range " ++ range.text ++ ": range.min cannot be greater than range.max"
  | outOfBounds range bound domain =>
      "invalid range " ++ range.text ++ ": " ++ bound.label ++ "(" ++ (range.bound bound).repr ++
        ") should be within min_value(" ++ domain.min.repr ++ ") and max_value(" ++
        domain.max.repr ++ ") limits"

/-- Why proper thresholds do not classify each score once. -/
inductive CoverageError where
  /-- No threshold classifies the scores between two bounds, which are given in the order
  reported. -/
  | gap (first second : Int)
  /-- Two ranges share a score. -/
  | overlap (left right : Interval)
  /-- A boolean value is classified again. -/
  | duplicateBoolean (value : Bool)
  /-- A boolean value is never classified. -/
  | missingBoolean
deriving DecidableEq, Repr

def CoverageError.message : CoverageError → String
  | gap first second =>
      "incomplete coverage: missing coverage between " ++ first.repr ++ " and " ++ second.repr
  | overlap left right =>
      "invalid thresholds " ++ left.text ++ " and " ++ right.text ++ ": thresholds must not overlap"
  | duplicateBoolean true => "duplicate entries for 'true' value"
  | duplicateBoolean false => "duplicate entries for 'false' value"
  | missingBoolean => "missing coverage for one or both of the boolean values"

/-- Any error of a set of thresholds. -/
inductive ThresholdError where
  | range (error : RangeError)
  | coverage (error : CoverageError)
deriving DecidableEq, Repr

def ThresholdError.message : ThresholdError → String
  | range error => error.message
  | coverage error => error.message

namespace Threshold

/-- What is wrong with a single range. Ends are only held against the domain when they are the right
way round; the upper end comes first. -/
def rangeErrors (domain range : Interval) : List RangeError :=
  if range.max < range.min then [.inverted range]
  else
    (if range.max ∈ domain then [] else [.outOfBounds range .max domain]) ++
      (if range.min ∈ domain then [] else [.outOfBounds range .min domain])

/-- The ranges in the order of their lower ends; ranges with one lower end keep their order. -/
def sortByMin (ranges : List Interval) : List Interval :=
  ranges.mergeSort fun left right => left.min ≤ right.min

/-- What is wrong between a range and the next one. -/
def neighbourErrors (left right : Interval) : List CoverageError :=
  if left.max + 1 < right.min then [.gap left.max right.min]
  else if right.min ≤ left.max then [.overlap left right]
  else []

/-- What is wrong between the neighbours of a sorted list. -/
def adjacencyErrors : List Interval → List CoverageError
  | [] | [_] => []
  | left :: right :: later => neighbourErrors left right ++ adjacencyErrors (right :: later)

/-- The least lower end, at most the upper end of the domain. -/
def lowest (domain : Interval) (ranges : List Interval) : Int :=
  ranges.foldl (fun least range => min least range.min) domain.max

/-- The greatest upper end, at least the lower end of the domain. -/
def highest (domain : Interval) (ranges : List Interval) : Int :=
  ranges.foldl (fun greatest range => max greatest range.max) domain.min

/-- The gaps at the ends of the domain, the upper one first. -/
def endErrors (domain : Interval) (ranges : List Interval) : List CoverageError :=
  (if highest domain ranges < domain.max then [.gap domain.max (highest domain ranges)] else []) ++
    (if domain.min < lowest domain ranges then [.gap (lowest domain ranges) domain.min] else [])

/-- What is wrong with the coverage of the domain by proper ranges. -/
def coverageErrors (domain : Interval) (ranges : List Interval) : List CoverageError :=
  adjacencyErrors (sortByMin ranges) ++ endErrors domain ranges

/-- What is wrong with the ranges of numeric thresholds over a domain. -/
def numberErrors (domain : Interval) (ranges : List Interval) : List ThresholdError :=
  if ranges = [] then []
  else
    match ranges.flatMap (rangeErrors domain) with
    | [] => (coverageErrors domain ranges).map .coverage
    | errors => errors.map .range

/-- How far boolean thresholds have been walked: a flag for each value that was classified, and the
errors so far. -/
structure BooleanScan where
  seenTrue : Bool := false
  seenFalse : Bool := false
  errors : List CoverageError := []
deriving DecidableEq, Repr

namespace BooleanScan

/-- The flag of a value. -/
def seen (scan : BooleanScan) : Bool → Bool
  | true => scan.seenTrue
  | false => scan.seenFalse

/-- Reports a value whose flag is raised already. -/
def report (scan : BooleanScan) (value : Bool) : BooleanScan :=
  if scan.seen value then { scan with errors := scan.errors ++ [.duplicateBoolean value] } else scan

/-- Raises the flag of a value. -/
def raise (scan : BooleanScan) : Bool → BooleanScan
  | true => { scan with seenTrue := true }
  | false => { scan with seenFalse := true }

/-- Walks on to the next value. -/
def step (scan : BooleanScan) (value : Bool) : BooleanScan := (scan.report value).raise value

/-- The errors at the end of the walk, where both flags should be raised. -/
def finish (scan : BooleanScan) : List CoverageError :=
  if scan.seenTrue && scan.seenFalse then scan.errors else scan.errors ++ [.missingBoolean]

end BooleanScan

/-- What is wrong with the values of boolean thresholds. -/
def booleanErrors (values : List Bool) : List CoverageError :=
  (values.foldl BooleanScan.step {}).finish

end Threshold

end ScoringRules
