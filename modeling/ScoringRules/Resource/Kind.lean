/-!
# Kinds of catalog resources

The catalog is a fixed hierarchy below a project. Each kind has a label, which messages use, and a
collection keyword, which introduces a resource of that kind in an address.

- `Kind` orders the kinds from the project down to the artifact
- `Collection` is the closed list of keywords, the location's among them
-/

namespace ScoringRules

/-- The kind of a catalog resource. -/
inductive Kind where
  | project
  | api
  | version
  | spec
  | deployment
  | artifact
deriving DecidableEq, Repr

namespace Kind

def all : List Kind := [project, api, version, spec, deployment, artifact]

def label : Kind → String
  | project => "project"
  | api => "api"
  | version => "version"
  | spec => "spec"
  | deployment => "deployment"
  | artifact => "artifact"

/-- The place of a kind in the order of the hierarchy. -/
def rank : Kind → Nat
  | project => 0
  | api => 1
  | version => 2
  | spec => 3
  | deployment => 4
  | artifact => 5

instance : LT Kind := ⟨fun left right => left.rank < right.rank⟩

instance (left right : Kind) : Decidable (left < right) :=
  inferInstanceAs (Decidable (left.rank < right.rank))

end Kind

/-- A keyword that introduces one step of an address. -/
inductive Collection where
  | projects
  | locations
  | apis
  | versions
  | specs
  | deployments
  | artifacts
deriving DecidableEq, Repr

namespace Collection

def all : List Collection :=
  [projects, locations, apis, versions, specs, deployments, artifacts]

def keyword : Collection → String
  | projects => "projects"
  | locations => "locations"
  | apis => "apis"
  | versions => "versions"
  | specs => "specs"
  | deployments => "deployments"
  | artifacts => "artifacts"

/-- The collection that a word introduces, if it is a keyword. -/
def ofKeyword? (word : String) : Option Collection :=
  all.find? fun collection => collection.keyword = word

/-- Only the keyword itself is read as a collection. -/
theorem ofKeyword?_eq_some_iff {word : String} {collection : Collection} :
    ofKeyword? word = some collection ↔ word = collection.keyword := by
  constructor
  · intro found
    simpa [eq_comm] using List.find?_some (show all.find? _ = some collection from found)
  · rintro rfl
    cases collection <;> decide +kernel

end Collection

/-- The collection that introduces resources of a kind. -/
def Kind.collection : Kind → Collection
  | project => .projects
  | api => .apis
  | version => .versions
  | spec => .specs
  | deployment => .deployments
  | artifact => .artifacts

end ScoringRules
