import ScoringRules.Resource.Parse

/-!
# References to a target

The pattern of a formula or of a score card is written relative to the resource that is scored, as
in `$resource.spec/artifacts/complexity`. Its reference names a level of that target; resolving it
gives the target's ancestor at the level, and substituting it puts the ancestor's canonical text in
its place. The target may be a name or itself a pattern.

- `referencedLevel` finds the level that a pattern refers to
- `resolve` and `substitute` apply a pattern to a target
-/

namespace ScoringRules

/-- Why a pattern cannot be applied to its target. -/
inductive ReferenceError where
  | malformed (error : ParseError)
  | missing (pattern : String)
  | unresolvable (pattern : String) (level : Level) (target : String) (kind : Kind)
  | unsubstituted (pattern : String)
deriving DecidableEq, Repr

def ReferenceError.message : ReferenceError → String
  | malformed error => error.message
  | missing pattern =>
      "invalid pattern: \"" ++ pattern ++
        "\", must always start with '$resource.(api|version|spec|artifact)'"
  | unresolvable pattern level target kind =>
      "invalid pattern \"" ++ pattern ++ "\", invalid $resource reference in pattern: $resource." ++
        level.label ++ " cannot be resolved against " ++ kind.label ++ " target \"" ++ target ++
        "\""
  | unsubstituted pattern =>
      "invalid pattern \"" ++ pattern ++ "\", $resource references are only allowed as the " ++
        "leading segment of an artifact or score pattern"

/-- The first word of a pattern that is to be read as a reference. -/
def referenceWord? (pattern : String) : Option String :=
  (Text.words '/' pattern).find? fun word => StartsReference word

/-- The level that a pattern refers to, if it has a reference. -/
def referencedLevel (pattern : String) : Except ParseError (Option Level) :=
  match referenceWord? pattern with
  | none => .ok none
  | some word =>
      match Level.read word with
      | .ok level => .ok (some level)
      | .error error => .error (.invalid .relativePattern pattern (.token error))

/-- Whether the first word of a pattern is to be read as a reference. -/
def LeadsWithReference (pattern : String) : Prop := StartsReference (Text.firstWord '/' pattern)

instance (pattern : String) : Decidable (LeadsWithReference pattern) :=
  inferInstanceAs (Decidable (StartsReference _))

section Applying

variable {S : Type} [Slot S]

/-- The ancestor of `target` at a level that `pattern` refers to. -/
def resolveLevel (pattern : String) (target : Resource S) (level : Level) :
    Except ReferenceError (Resource S) :=
  match target.ancestor? level.kind with
  | some ancestor => .ok ancestor
  | none => .error (.unresolvable pattern level target.text target.kind)

/-- The resource that `pattern` refers to: an ancestor of `target`, or `target` itself when the
pattern has no reference. -/
def resolve (pattern : String) (target : Resource S) : Except ReferenceError (Resource S) := do
  match ← (referencedLevel pattern).mapError .malformed with
  | none => .ok target
  | some level => resolveLevel pattern target level

/-- `pattern` with the first occurrence of its reference token replaced by the canonical text of the
resource it refers to. A pattern without a reference is left as it is. -/
def substitute (pattern : String) (target : Resource S) : Except ReferenceError String := do
  match ← (referencedLevel pattern).mapError .malformed with
  | none => .ok pattern
  | some level =>
      return Text.replaceFirst level.token (← resolveLevel pattern target level).text pattern

end Applying

end ScoringRules
