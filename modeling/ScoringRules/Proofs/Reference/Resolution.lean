import ScoringRules.Validation.Definition
import ScoringRules.Proofs.Reference.Narrowing
import ScoringRules.Proofs.Reference.Occurrence
import ScoringRules.Proofs.Resource.RoundTrip
import ScoringRules.Proofs.Validation.Acceptance

/-!
# Accepted patterns resolve

Validation judges a relative pattern against the target, evaluation applies it to a name that the
target matches. The target covers that name, and so does whatever is found on the way up and read on
from there. A pattern that is valid relative to the target therefore stands for something definite
relative to the name.

- `Resolves` says what evaluation can rely on
- `Resource.Covers.resolves` carries it from a target to a name
- `accepted_patterns_resolve` draws the conclusion for score definitions and score cards
-/

namespace ScoringRules

/-- Whether substituting a name in a pattern gives the canonical text of `applied`, a pattern
without references that is specific about its artifact. -/
structure ResolvesTo (pattern : String) (name : Name) (applied : Pattern) : Prop where
  substituted : substitute pattern name = .ok applied.text
  parsed : Pattern.parse applied.text = .ok applied
  free : ¬ applied.HasReference
  stable : ∀ other : Name, substitute applied.text other = .ok applied.text
  specific : applied.kind = .artifact → ∃ identifier, applied.artifact? = some (.literal identifier)

/-- Whether a pattern can be resolved for a name. -/
def Resolves (pattern : String) (name : Name) : Prop := ∃ applied, ResolvesTo pattern name applied

namespace HasWildcardTail

/-- What comes before a text does not matter to its tail. -/
theorem append_left {text : String} (tail : HasWildcardTail text) (before : String) :
    HasWildcardTail (before ++ text) := by
  rw [HasWildcardTail, String.toList_append]
  exact tail.trans (List.suffix_append _ _)

/-- A wildcard at the end stands in the remainder, if there is one. -/
theorem of_append {before later : String} (tail : HasWildcardTail (before ++ ("/" ++ later))) :
    HasWildcardTail ("/" ++ later) := by
  have slash : ("/" ++ later).toList = '/' :: later.toList := by
    rw [String.toList_append]
    rfl
  have whole := tail
  rw [HasWildcardTail, String.toList_append] at whole
  rcases List.suffix_or_suffix_of_suffix whole (List.suffix_append _ _) with inside | short
  · exact inside
  · -- What is shorter than the tail and starts with its first character is the tail itself.
    have mark : "/-".toList = ['/', '-'] := rfl
    rw [slash, mark, List.suffix_cons_iff, List.suffix_cons_iff, List.suffix_nil] at short
    rcases short with same | same | same
    · rw [HasWildcardTail, slash, same]
      exact List.suffix_rfl
    · cases same
    · cases same

end HasWildcardTail

namespace Resource

/-- Artifacts are the addresses with an artifact slot. -/
theorem kind_eq_artifact_iff {S : Type} {resource : Resource S} :
    resource.kind = .artifact ↔ ∃ slot, resource.artifact? = some slot := by
  obtain ⟨node, artifact⟩ := resource
  cases artifact with
  | none =>
      refine iff_of_false ?_ nofun
      cases node <;> exact nofun
  | some slot => exact iff_of_true rfl ⟨slot, rfl⟩

/-- An artifact that is a wildcard ends in one. -/
theorem hasWildcardTail_text (node : Node Segment) :
    HasWildcardTail (text { node, artifact? := some Segment.wildcard }) := by
  have written : "artifacts" ++ "/" ++ Slot.text Segment.wildcard = "artifacts/-" := rfl
  have tail : HasWildcardTail "artifacts/-" := by decide
  rw [text_artifact, written]
  exact tail.append_left _

end Resource

section Resolving

variable {target : Pattern} {name : Name} {pattern : String}

/-- What is read for a name is canonical, and free of references when what is read for a target that
covers the name is. -/
theorem ResolvesTo.of_covers {applied final : Pattern} (free : ¬ applied.HasReference)
    (covers : applied.Covers final) (substituted : substitute pattern name = .ok final.text)
    (specific : final.kind = .artifact →
      ∃ identifier, final.artifact? = some (.literal identifier)) :
    ResolvesTo pattern name final := by
  have free := mt covers.hasReference_iff.mp free
  have reread : Pattern.parse final.text = .ok final := Resource.parse_text final
  exact ⟨substituted, reread, free,
    fun other => substitute_of_dollar_not_mem other (Resource.dollar_not_mem_words reread free),
    specific⟩

/-- What is covered by a pattern that ends in an identifier is one literal artifact. -/
theorem Resource.Covers.specific {applied final : Pattern} (covers : applied.Covers final)
    (free : ¬ applied.HasReference) (specific : ¬ HasWildcardTail applied.text)
    (artifact : final.kind = .artifact) :
    ∃ identifier, final.artifact? = some (.literal identifier) := by
  obtain ⟨node, expected⟩ := applied
  obtain ⟨other, found⟩ := final
  obtain ⟨slot, rfl⟩ := kind_eq_artifact_iff.mp artifact
  cases covers.artifact with
  | @some expected _ slots =>
      cases expected with
      | literal identifier =>
          cases slots
          exact ⟨identifier, rfl⟩
      | wildcard => exact absurd (hasWildcardTail_text node) specific
      | reference level =>
          refine absurd ⟨.reference level, ?_, trivial⟩ free
          exact List.mem_append_right _ (List.mem_singleton.mpr rfl)

/-- **Resolution carries over.** A pattern that is valid relative to a target resolves for each name
that the target covers. -/
theorem Resource.Covers.resolves (covers : target.Covers name.toPattern)
    (valid : ValidRelative target pattern) : Resolves pattern name := by
  obtain ⟨⟨applied, level, remainder, ancestor, refers, found, read, free⟩, specific⟩ := valid
  obtain ⟨_, final, -, substituted, -, below⟩ := covers.narrow refers found read
  obtain ⟨concrete, -, written⟩ := refers.substitute_eq_ok_iff.mp substituted
  refine ⟨final, .of_covers free below substituted fun artifact => ?_⟩
  rcases refers.remainder_cases with rfl | ⟨later, rfl⟩
  · -- The pattern is a reference only, and what it stands for is the ancestor itself.
    rw [String.append_empty, ← Name.text_toPattern] at written
    obtain rfl : final = Name.toPattern concrete := text_injective written
    obtain ⟨slot, held⟩ := kind_eq_artifact_iff.mp artifact
    obtain ⟨identifier, -, rfl⟩ := Option.map_eq_some_iff.mp held
    exact ⟨identifier, held⟩
  · rw [← String.append_assoc] at read
    refine below.specific free (fun tail => specific ?_) artifact
    rw [text_of_parse_append read, String.append_assoc] at tail
    rw [refers.split]
    exact tail.of_append.append_left _

/-- A target that a name matches covers it. -/
theorem IsTarget.covers {parent : String} {selector : Selector}
    (isTarget : IsTarget parent selector.pattern target)
    (matched : matchTarget selector name parent = .ok ()) : target.Covers name.toPattern := by
  rw [matchTarget, isTarget.parsed] at matched
  exact matchPattern_eq_ok_iff.mp matched

/-- Each component of a valid formula is valid. -/
theorem Formula.Valid.components {formula : Formula} (valid : formula.Valid target) :
    ∀ component ∈ formula.components, component.Valid target := by
  cases formula with
  | single formula =>
      intro component member
      obtain rfl := List.mem_singleton.mp member
      exact valid
  | rollup rollup => exact RollupFormula.Valid.components valid

/-- Each component of a valid score definition is valid under its target. -/
theorem ScoreDefinition.Valid.components {parent : String} {definition : ScoreDefinition}
    (valid : definition.Valid parent) :
    ∃ target, IsTarget parent definition.target.pattern target ∧
      ∀ component ∈ definition.components, component.Valid target := by
  obtain ⟨target, isTarget, formula, given, valid⟩ := valid.formula
  refine ⟨target, isTarget, ?_⟩
  rw [ScoreDefinition.components, Option.mem_def.mp given]
  exact valid.components

end Resolving

/-- **Accepted patterns resolve.** Whatever the limits and the parent are, an accepted score
definition whose target a name matches has artifact patterns that all resolve for the name, and so
do the score patterns of an accepted score card. -/
theorem accepted_patterns_resolve (limits : Limits) (parent : String) (name : Name) :
    (∀ definition : ScoreDefinition, (definition.validate limits parent).errors = [] →
      matchTarget definition.target name parent = .ok () →
        ∀ formula ∈ definition.components, Resolves formula.artifact.pattern name) ∧
      ∀ card : ScoreCard, (card.validate limits parent).errors = [] →
        matchTarget card.target name parent = .ok () →
          ∀ pattern ∈ card.scorePatterns, Resolves pattern name := by
  constructor
  · intro definition accepted matched formula member
    obtain ⟨target, isTarget, components⟩ := (ScoreDefinition.valid_of_accepted accepted).components
    exact (isTarget.covers matched).resolves (components formula member).artifact
  · intro card accepted matched pattern member
    obtain ⟨target, isTarget, patterns⟩ := (ScoreCard.valid_of_accepted accepted).patterns
    exact (isTarget.covers matched).resolves (patterns pattern member)

def openapiRevision : Name where
  node := .spec ⟨"demo", by decide⟩ ⟨"petstore", by decide⟩ ⟨"v1", by decide⟩ ⟨"openapi", by decide⟩
    (some ⟨"r1", by decide⟩)

def lintScore : ScoreDefinition where
  id := "lint"
  target := { pattern := "apis/-/versions/-/specs/-" }
  formula := some (.single
    { artifact := { pattern := "$resource.spec/artifacts/lint" }, expression := "size(errors)" })
  type := some (.percent {})

def apiCard : ScoreCard where
  id := "quality"
  target := { pattern := "apis/-/versions/-/specs/-" }
  scorePatterns := ["$resource.api/artifacts/score-lint"]

/-- The target of the score and the card does not mention the revision, and their patterns resolve
for it. -/
theorem patterns_resolve_for_revision :
    ((lintScore.validate .unbounded "projects/demo").errors = [] ∧
      matchTarget lintScore.target openapiRevision "projects/demo" = .ok () ∧
      Resolves "$resource.spec/artifacts/lint" openapiRevision) ∧
    (apiCard.validate .unbounded "projects/demo").errors = [] ∧
      matchTarget apiCard.target openapiRevision "projects/demo" = .ok () ∧
      Resolves "$resource.api/artifacts/score-lint" openapiRevision := by
  have score : (lintScore.validate .unbounded "projects/demo").errors = [] := by decide +kernel
  have card : (apiCard.validate .unbounded "projects/demo").errors = [] := by decide +kernel
  have scoreMatches : matchTarget lintScore.target openapiRevision "projects/demo" = .ok () := by
    decide +kernel
  have cardMatches : matchTarget apiCard.target openapiRevision "projects/demo" = .ok () := by
    decide +kernel
  obtain ⟨definitions, cards⟩ :=
    accepted_patterns_resolve .unbounded "projects/demo" openapiRevision
  exact ⟨⟨score, scoreMatches,
      definitions lintScore score scoreMatches _ (List.mem_singleton.mpr rfl)⟩,
    card, cardMatches, cards apiCard card cardMatches _ (List.mem_singleton.mpr rfl)⟩

end ScoringRules
