import ScoringRules.Resource.Identifier
import ScoringRules.Resource.Kind

/-!
# Slots of an address

Names and patterns share one hierarchy and differ in what fills its slots: identifiers in a name,
segments in a pattern. A segment is a literal identifier, the wildcard, or a reference to a level of
the resource that the pattern is applied to. A reference is written `$resource.` and the level's
label.

- `Level.read` and `Segment.read` read tokens, `Level.token` and `Segment.text` write them
- `Segment.Accepts` says which identifiers satisfy a segment
- `Slot` packages what reading and writing an address needs of its slots
-/

namespace ScoringRules

/-- The text that every reference token starts with. -/
def referencePrefix : String := "$resource"

/-- Whether a word is to be read as a reference. -/
def StartsReference (word : String) : Prop := referencePrefix.toList <+: word.toList

instance (word : String) : Decidable (StartsReference word) :=
  inferInstanceAs (Decidable (_ <+: _))

/-- A level of the hierarchy that a reference can name. -/
inductive Level where
  | api
  | version
  | spec
  | artifact
deriving DecidableEq, Repr

namespace Level

def all : List Level := [api, version, spec, artifact]

def label : Level → String
  | api => "api"
  | version => "version"
  | spec => "spec"
  | artifact => "artifact"

/-- The kind of the resource that the level refers to. -/
def kind : Level → Kind
  | api => .api
  | version => .version
  | spec => .spec
  | artifact => .artifact

def token (level : Level) : String := referencePrefix ++ "." ++ level.label

def ofToken? (token : String) : Option Level := all.find? fun level => level.token = token

def read (token : String) : Except TokenError Level :=
  match ofToken? token with
  | some level => .ok level
  | none => .error (.invalidReference token)

/-- Only the token itself refers to its level. -/
theorem ofToken?_eq_some_iff {token : String} {level : Level} :
    ofToken? token = some level ↔ token = level.token := by
  constructor
  · intro found
    simpa [eq_comm] using List.find?_some (show all.find? _ = some level from found)
  · rintro rfl
    cases level <;> decide +kernel

/-- A token is read as the level it refers to. -/
theorem read_eq_ok_iff {token : String} {level : Level} :
    read token = .ok level ↔ token = level.token := by
  rw [← ofToken?_eq_some_iff, read]
  cases ofToken? token <;> simp

end Level

/-- One slot of a pattern. -/
inductive Segment where
  | literal (identifier : Identifier)
  | wildcard
  /-- The identifier to be taken from the named level of a target. -/
  | reference (level : Level)
deriving DecidableEq

namespace Segment

/-- Reads a token as a slot of a pattern. -/
def read (token : String) : Except TokenError Segment :=
  if token = wildcardText then .ok wildcard
  else if StartsReference token then reference <$> Level.read token
  else literal <$> Identifier.read token

def text : Segment → String
  | literal identifier => identifier.text
  | wildcard => wildcardText
  | reference level => level.token

/-- Whether a slot still refers to a target. -/
def IsReference : Segment → Prop
  | reference _ => True
  | literal _ | wildcard => False

instance : DecidablePred IsReference
  | reference _ => isTrue trivial
  | literal _ | wildcard => isFalse id

/-- Whether a slot is satisfied by what stands at its place in a name, if anything does. The
wildcard is satisfied by anything, and a reference, which has to be substituted first, by
nothing. -/
def Accepts : Segment → Option Identifier → Prop
  | literal expected, found => found = some expected
  | wildcard, _ => True
  | reference _, _ => False

instance : (segment : Segment) → (found : Option Identifier) → Decidable (segment.Accepts found)
  | literal expected, found => inferInstanceAs (Decidable (found = some expected))
  | wildcard, _ => isTrue trivial
  | reference _, _ => isFalse id

end Segment

/-- A type whose values fill the slots of an address. -/
class Slot (S : Type) where
  /-- What an address with such slots is called. -/
  subject : Subject
  /-- Reads one token. -/
  read : String → Except TokenError S
  /-- Writes the token of a slot. -/
  text : S → String

instance : Slot Identifier := ⟨.resourceName, Identifier.read, Identifier.text⟩

instance : Slot Segment := ⟨.resourcePattern, Segment.read, Segment.text⟩

end ScoringRules
