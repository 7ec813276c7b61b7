/-!
# Intervals of scores

The range of a numeric threshold and the domain of a numeric score are intervals of integers with
both ends included. An interval whose ends are the wrong way round contains nothing.
-/

namespace ScoringRules

/-- The integers from `min` to `max`. -/
structure Interval where
  min : Int
  max : Int
deriving DecidableEq, Repr

/-- One end of an interval. -/
inductive Bound where
  | min
  | max
deriving DecidableEq, Repr

/-- The name of the end in a threshold's range. -/
def Bound.label : Bound → String
  | min => "range.min"
  | max => "range.max"

namespace Interval

/-- A score is in an interval when it lies between the ends. -/
instance : Membership Int Interval :=
  ⟨fun interval score => interval.min ≤ score ∧ score ≤ interval.max⟩

instance (score : Int) (interval : Interval) : Decidable (score ∈ interval) :=
  inferInstanceAs (Decidable (_ ∧ _))

/-- The score at one end. -/
def bound (interval : Interval) : Bound → Int
  | .min => interval.min
  | .max => interval.max

/-- The interval as it is written in messages. -/
def text (interval : Interval) : String :=
  "[" ++ interval.min.repr ++ ", " ++ interval.max.repr ++ "]"

end Interval

/-- The scores of a percentage. -/
def percentDomain : Interval := ⟨0, 100⟩

end ScoringRules
