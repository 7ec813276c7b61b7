import ScoringRules.Matching.Error

/-!
# Log events

Selecting and validating definitions leave a record. It is a value: the operations return their
events, in order, next to their results.
-/

namespace ScoringRules

inductive DocumentKind where
  | scoreDefinition
  | scoreCard
deriving DecidableEq, Repr

def DocumentKind.label : DocumentKind → String
  | scoreDefinition => "score_definition"
  | scoreCard => "score_card_definition"

inductive Verbosity where
  | debug
  | trace
deriving DecidableEq, Repr

def Verbosity.label : Verbosity → String
  | debug => "DEBUG"
  | trace => "TRACE"

/-- Something that is recorded. -/
inductive Event where
  | rejected (kind : DocumentKind) (parent id : String) (errorCount : Nat)
  | notApplicable (id : String) (name : Name) (error : MatchError)
deriving DecidableEq

def Event.verbosity : Event → Verbosity
  | rejected .. => .debug
  | notApplicable .. => .trace

def Event.message : Event → String
  | rejected .. => "definition rejected"
  | notApplicable .. => "score definition does not apply"

/-- What is recorded in a field of an event. -/
inductive Detail where
  | text (text : String)
  | count (count : Nat)
deriving DecidableEq, Repr

/-- The named details of an event. -/
def Event.fields : Event → List (String × Detail)
  | rejected kind parent id errorCount =>
      [("kind", .text kind.label), ("parent", .text parent), ("definition", .text id),
        ("error_count", .count errorCount)]
  | notApplicable id name error =>
      [("definition", .text id), ("resource", .text name.text), ("error", .text error.message)]

end ScoringRules
