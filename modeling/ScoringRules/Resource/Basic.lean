import ScoringRules.Resource.Segment

/-!
# Resources of the catalog

A resource is addressed by a node of the hierarchy and, for an artifact, by the artifact's slot on
top of it. An artifact therefore never hangs on another artifact. Names hold identifiers in their
slots, patterns hold segments.

- `Resource.kind` and the slot accessors read an address
- `Resource.parent?`, `Resource.lineage` and `Resource.ancestor?` walk up the hierarchy
- `Resource.text` writes the canonical text, whose `steps` always give the location
-/

namespace ScoringRules

/-- A node of the hierarchy that artifacts can hang on. -/
inductive Node (S : Type) where
  | project (project : S)
  | api (project api : S)
  | version (project api version : S)
  | spec (project api version spec : S) (revision : Option S)
  | deployment (project api deployment : S) (revision : Option S)
deriving DecidableEq

namespace Node

variable {S : Type}

def kind : Node S → Kind
  | project .. => .project
  | api .. => .api
  | version .. => .version
  | spec .. => .spec
  | deployment .. => .deployment

def projectSlot : Node S → S
  | project p | api p _ | version p _ _ | spec p _ _ _ _ | deployment p _ _ _ => p

def apiSlot? : Node S → Option S
  | project _ => none
  | api _ a | version _ a _ | spec _ a _ _ _ | deployment _ a _ _ => some a

def versionSlot? : Node S → Option S
  | version _ _ v | spec _ _ v _ _ => some v
  | project .. | api .. | deployment .. => none

def specSlot? : Node S → Option S
  | spec _ _ _ s _ => some s
  | project .. | api .. | version .. | deployment .. => none

def deploymentSlot? : Node S → Option S
  | deployment _ _ d _ => some d
  | project .. | api .. | version .. | spec .. => none

def revisionSlot? : Node S → Option S
  | spec _ _ _ _ r | deployment _ _ _ r => r
  | project .. | api .. | version .. => none

def parent? : Node S → Option (Node S)
  | project _ => none
  | api p _ => some (project p)
  | version p a _ => some (api p a)
  | spec p a v _ _ => some (version p a v)
  | deployment p a _ _ => some (api p a)

/-- The node and all nodes above it, from the node up to its project. -/
def lineage : Node S → List (Node S)
  | project p => [project p]
  | api p a => [api p a, project p]
  | version p a v => [version p a v, api p a, project p]
  | spec p a v s r => [spec p a v s r, version p a v, api p a, project p]
  | deployment p a d r => [deployment p a d r, api p a, project p]

def slots : Node S → List S
  | project p => [p]
  | api p a => [p, a]
  | version p a v => [p, a, v]
  | spec p a v s r => [p, a, v, s] ++ r.toList
  | deployment p a d r => [p, a, d] ++ r.toList

/-- The lineage starts with the node and goes on with that of its parent. -/
theorem lineage_eq (node : Node S) :
    node.lineage = node :: (node.parent?.map lineage).getD [] := by
  cases node <;> rfl

end Node

/-- An address in the catalog: a node, or an artifact on a node. -/
structure Resource (S : Type) where
  node : Node S
  /-- The slot of the artifact, for an artifact. -/
  artifact? : Option S := none
deriving DecidableEq

abbrev Name : Type := Resource Identifier

abbrev Pattern : Type := Resource Segment

/-- The only location that addresses may give. -/
def globalLocation : String := "global"

/-- The mark between the identifier and the revision of a spec or deployment. -/
def revisionMark : Char := '@'

namespace Resource

variable {S : Type}

def kind (resource : Resource S) : Kind :=
  match resource.artifact? with
  | none => resource.node.kind
  | some _ => .artifact

def parent? (resource : Resource S) : Option (Resource S) :=
  match resource.artifact? with
  | none => resource.node.parent?.map fun node => { node }
  | some _ => some { node := resource.node }

/-- The resource and all resources above it, from the resource up to its project. -/
def lineage (resource : Resource S) : List (Resource S) :=
  let nodes := resource.node.lineage.map fun node => { node }
  match resource.artifact? with
  | none => nodes
  | some _ => resource :: nodes

/-- The resource of the given kind on the way up, the resource itself included. -/
def ancestor? (resource : Resource S) (kind : Kind) : Option (Resource S) :=
  resource.lineage.find? fun above => above.kind = kind

def slots (resource : Resource S) : List S := resource.node.slots ++ resource.artifact?.toList

/-- The lineage starts with the resource and goes on with that of its parent. -/
theorem lineage_eq (resource : Resource S) :
    resource.lineage = resource :: (resource.parent?.map lineage).getD [] := by
  obtain ⟨node, artifact⟩ := resource
  cases node <;> cases artifact <;> rfl

end Resource

section Writing

variable {S : Type} [Slot S]

/-- The word for a slot with an optional revision. -/
def revisedText (slot : S) (revision : Option S) : String :=
  match revision with
  | none => Slot.text slot
  | some revision => Slot.text slot ++ revisionMark.toString ++ Slot.text revision

/-- The steps that address a project, its location among them. -/
def projectSteps (project : S) : List (Collection × String) :=
  [(.projects, Slot.text project), (.locations, globalLocation)]

/-- The steps of a node's canonical text: a keyword and the word that it introduces each. -/
def Node.steps : Node S → List (Collection × String)
  | project p => projectSteps p
  | api p a => projectSteps p ++ [(.apis, Slot.text a)]
  | version p a v => projectSteps p ++ [(.apis, Slot.text a), (.versions, Slot.text v)]
  | spec p a v s r =>
      projectSteps p ++
        [(.apis, Slot.text a), (.versions, Slot.text v), (.specs, revisedText s r)]
  | deployment p a d r =>
      projectSteps p ++ [(.apis, Slot.text a), (.deployments, revisedText d r)]

namespace Resource

def steps (resource : Resource S) : List (Collection × String) :=
  match resource.artifact? with
  | none => resource.node.steps
  | some artifact => resource.node.steps ++ [(.artifacts, Slot.text artifact)]

/-- The canonical text of an address. -/
def text (resource : Resource S) : String :=
  "/".intercalate (resource.steps.flatMap fun (collection, word) => [collection.keyword, word])

end Resource

end Writing

/-- Whether some slot of a pattern still refers to a target. -/
def Resource.HasReference (pattern : Pattern) : Prop := ∃ slot ∈ pattern.slots, slot.IsReference

instance (pattern : Pattern) : Decidable (Resource.HasReference pattern) :=
  inferInstanceAs (Decidable (∃ slot ∈ pattern.slots, slot.IsReference))

end ScoringRules
