import ScoringRules.Proofs.Matching.Covers
import ScoringRules.Proofs.Reference.Application

/-!
# Going up on both sides of a match

The hierarchy above a pattern matches the hierarchy above each name that the pattern matches, kind
by kind. A reference is resolved by going up to a kind that its text alone decides. It therefore
resolves against a pattern and against a name that the pattern matches in the same way, or against
neither.

- `rel_ancestor?_of_matchPattern` goes up to a kind on both sides
- `truncation_keeps_matching` says it of going up and of resolving
-/

namespace ScoringRules

section Matching

variable {pattern : Pattern} {name : Name}

/-- Going up to a kind leads to a match, or it leads nowhere on both sides. -/
theorem rel_ancestor?_of_matchPattern (matched : matchPattern pattern name = .ok ()) (kind : Kind) :
    Option.Rel (fun above below => matchPattern above below = .ok ()) (pattern.ancestor? kind)
      (name.ancestor? kind) := by
  have related := (matchPattern_eq_ok_iff.mp matched).rel_ancestor? kind
  rw [Name.toPattern, Resource.ancestor?_map] at related
  generalize pattern.ancestor? kind = above at related ⊢
  cases found : name.ancestor? kind with
  | none =>
      rw [found, Option.map_none] at related
      cases related
      exact .none
  | some below =>
      rw [found, Option.map_some] at related
      cases related with
      | some covers => exact .some (matchPattern_eq_ok_iff.mpr covers)

/-- What a pattern refers to matches what the name refers to. -/
theorem rel_referent?_of_matchPattern (matched : matchPattern pattern name = .ok ())
    (named : Option Level) :
    Option.Rel (fun above below => matchPattern above below = .ok ()) (pattern.referent? named)
      (name.referent? named) := by
  cases named with
  | none => exact .some matched
  | some level => exact rel_ancestor?_of_matchPattern matched level.kind

/-- Related options are both there, and then their values are related, or neither is. -/
theorem exists_iff_of_rel {α β : Type} {relation : α → β → Prop} {left : Option α}
    {right : Option β} (related : Option.Rel relation left right) :
    ((∃ value, left = some value) ↔ ∃ value, right = some value) ∧
      ∀ first second, left = some first → right = some second → relation first second := by
  cases related with
  | none => exact ⟨iff_of_false nofun nofun, nofun⟩
  | some holds =>
      refine ⟨iff_of_true ⟨_, rfl⟩ ⟨_, rfl⟩, ?_⟩
      rintro _ _ ⟨⟩ ⟨⟩
      exact holds

/-- **Truncation keeps matching.** Above a pattern and a name that it matches, the same kinds are
found, and the one at a kind matches the other. What a pattern text refers to is therefore found
relative to both or to neither, and then the one matches the other. -/
theorem truncation_keeps_matching (matched : matchPattern pattern name = .ok ()) :
    (∀ kind, ((∃ above, pattern.ancestor? kind = some above) ↔
          ∃ below, name.ancestor? kind = some below) ∧
        ∀ above below, pattern.ancestor? kind = some above → name.ancestor? kind = some below →
          matchPattern above below = .ok ()) ∧
      ∀ text, ((∃ entity, resolve text pattern = .ok entity) ↔
          ∃ entity, resolve text name = .ok entity) ∧
        ∀ general concrete, resolve text pattern = .ok general → resolve text name = .ok concrete →
          matchPattern general concrete = .ok () := by
  refine ⟨fun kind => exists_iff_of_rel (rel_ancestor?_of_matchPattern matched kind),
    fun text => ?_⟩
  cases read : referencedLevel text with
  | error malformed =>
      simp only [resolve_eq_ok_iff, read, reduceCtorEq, false_and, exists_false, false_imp_iff,
        implies_true, and_self]
  | ok named =>
      simp only [resolve_eq_ok_iff, read, Except.ok.injEq, exists_eq_left']
      exact exists_iff_of_rel (rel_referent?_of_matchPattern matched named)

/-- The artifacts of any spec in a project, at whatever revision. -/
def specArtifacts : Pattern where
  node := .spec (.literal ⟨"atlas", by decide⟩) .wildcard .wildcard .wildcard none
  artifact? := some .wildcard

/-- An artifact of a spec at a revision. -/
def revisedLint : Name where
  node := .spec ⟨"atlas", by decide⟩ ⟨"routes", by decide⟩ ⟨"v4", by decide⟩
    ⟨"graph", by decide⟩ (some ⟨"rev9", by decide⟩)
  artifact? := some ⟨"lint-report", by decide⟩

/-- The spec of the artifact keeps its revision, which the specs of the pattern match. -/
theorem revised_lint_truncated_to_spec :
    matchPattern specArtifacts revisedLint = .ok () ∧
      resolve "$resource.spec/artifacts/style" specArtifacts = .ok { node := specArtifacts.node } ∧
      resolve "$resource.spec/artifacts/style" revisedLint = .ok { node := revisedLint.node } ∧
      matchPattern { node := specArtifacts.node } { node := revisedLint.node } = .ok () := by
  have matched : matchPattern specArtifacts revisedLint = .ok () := by decide +kernel
  have general : resolve "$resource.spec/artifacts/style" specArtifacts =
      .ok { node := specArtifacts.node } := rfl
  have concrete : resolve "$resource.spec/artifacts/style" revisedLint =
      .ok { node := revisedLint.node } := rfl
  exact ⟨matched, general, concrete,
    ((truncation_keeps_matching matched).2 _).2 _ _ general concrete⟩

end Matching

end ScoringRules
