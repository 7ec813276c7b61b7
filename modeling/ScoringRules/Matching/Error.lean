import ScoringRules.Resource.Parse

/-!
# Mismatches

Why a name does not match a target: the target is no pattern, pattern and name address different
kinds of resources, or a slot of the pattern does not accept what the name has at its place. The
last two record the whole pattern and the whole name, a mismatch of kinds also the two kinds.
-/

namespace ScoringRules

inductive Place where
  | project
  | api
  | version
  | spec
  | deployment
  | revision
  | artifact
deriving DecidableEq, Repr

def Place.label : Place → String
  | project => "project"
  | api => "api"
  | version => "version"
  | spec => "spec"
  | deployment => "deployment"
  | revision => "revision"
  | artifact => "artifact"

/-- Why a name does not match a target. -/
inductive MatchError where
  | badTarget (error : ParseError)
  | kindMismatch (pattern : Pattern) (name : Name) (patternKind nameKind : Kind)
  | segmentMismatch (place : Place) (expected : Segment) (found : Option Identifier)
      (pattern : Pattern) (name : Name)
deriving DecidableEq

def MatchError.message : MatchError → String
  | badTarget error => error.message
  | kindMismatch pattern name .. =>
      "resource " ++ name.text ++ " doesn't match target pattern " ++ pattern.text
  | segmentMismatch place expected found pattern name =>
      place.label ++ " mismatch in resource " ++ name.text ++ " and target pattern " ++
        pattern.text ++ ": expected \"" ++ expected.text ++ "\", found \"" ++
        (found.elim "" Identifier.text) ++ "\""

end ScoringRules
