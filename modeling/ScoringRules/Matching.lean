import ScoringRules.Log
import ScoringRules.Score.Definition

/-!
# Matching resources with targets

A name matches a pattern when both are addresses of one kind and each slot of the pattern accepts
what stands at its place in the name. The project is compared before the kinds are; then the slots
are compared from the top down, and the first one that does not accept is reported.

- `comparisons?` lists what is compared below the project
- `matchPattern` and `matchTarget` compare a name with a pattern and with a target relative to a
  project
- `select` keeps the definitions whose target a resource matches
-/

namespace ScoringRules

/-- One comparison: the slot of a pattern at a place with what a name has there, if it has
anything. -/
structure Comparison where
  place : Place
  expected : Segment
  found : Option Identifier
deriving DecidableEq

/-- Whether the slot accepts what was found. -/
def Comparison.Succeeds (comparison : Comparison) : Prop :=
  comparison.expected.Accepts comparison.found

instance : DecidablePred Comparison.Succeeds := fun comparison =>
  inferInstanceAs (Decidable (comparison.expected.Accepts comparison.found))

/-- The comparison of a revision. A pattern without a revision compares nothing. -/
def revisionComparison (expected : Option Segment) (found : Option Identifier) : List Comparison :=
  match expected with
  | none => []
  | some expected => [⟨.revision, expected, found⟩]

/-- The comparisons of two nodes below their projects, if the nodes are of one kind. -/
def Node.comparisons? : Node Segment → Node Identifier → Option (List Comparison)
  | project _, project _ => some []
  | api _ a, api _ b => some [⟨.api, a, b⟩]
  | version _ a v, version _ b w => some [⟨.api, a, b⟩, ⟨.version, v, w⟩]
  | spec _ a v s r, spec _ b w t q =>
      some ([⟨.api, a, b⟩, ⟨.version, v, w⟩, ⟨.spec, s, t⟩] ++ revisionComparison r q)
  | deployment _ a d r, deployment _ b e q =>
      some ([⟨.api, a, b⟩, ⟨.deployment, d, e⟩] ++ revisionComparison r q)
  | _, _ => none

/-- The comparisons of a pattern and a name below their projects, if they are of one kind, artifacts
of parents of one kind. -/
def comparisons? (pattern : Pattern) (name : Name) : Option (List Comparison) :=
  match pattern.artifact?, name.artifact? with
  | none, none => pattern.node.comparisons? name.node
  | some expected, some found =>
      (pattern.node.comparisons? name.node).map (· ++ [⟨.artifact, expected, some found⟩])
  | _, _ => none

def projectComparison (pattern : Pattern) (name : Name) : Comparison :=
  ⟨.project, pattern.node.projectSlot, some name.node.projectSlot⟩

/-- Requires that comparisons of a pattern and a name succeed; the first one that does not is
reported. -/
def require (pattern : Pattern) (name : Name) (comparisons : List Comparison) :
    Except MatchError Unit :=
  match comparisons.find? fun comparison => ¬ comparison.Succeeds with
  | none => .ok ()
  | some failed => .error (.segmentMismatch failed.place failed.expected failed.found pattern name)

/-- Compares the projects, then the kinds, and then what is below the projects. -/
def matchPattern (pattern : Pattern) (name : Name) : Except MatchError Unit := do
  require pattern name [projectComparison pattern name]
  match comparisons? pattern name with
  | none => .error (.kindMismatch pattern name pattern.kind name.kind)
  | some comparisons => require pattern name comparisons

/-- Compares a name with a target that is relative to a project. -/
def matchTarget (target : Selector) (name : Name) (project : String) : Except MatchError Unit := do
  let pattern ← (Pattern.parse (project ++ "/" ++ target.pattern)).mapError .badTarget
  matchPattern pattern name

/-- The definitions that apply to a resource, with their positions, and the record of those that do
not. -/
structure Selection where
  chosen : List (ScoreDefinition × Nat)
  log : List Event

/-- Selects the definitions whose target a resource matches, in their order. A definition whose
target is not a pattern does not apply. -/
def select (definitions : List ScoreDefinition) (name : Name) (project : String) : Selection where
  chosen := definitions.zipIdx.filter fun (definition, _) =>
    (matchTarget definition.target name project).isOk
  log := definitions.filterMap fun definition =>
    match matchTarget definition.target name project with
    | .ok () => none
    | .error error => some (.notApplicable definition.id name error)

end ScoringRules
