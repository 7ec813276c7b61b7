import ScoringRules.Proofs.Matching.Reading
import ScoringRules.Proofs.Reference.Application
import ScoringRules.Proofs.Resource.Lineage

/-!
# Applying a pattern below its target

A pattern can be applied to a target and to a name that the target matches. The same remainder
follows the ancestor in both cases, and the ancestor of the target covers that of the name. What the
pattern stands for relative to the target therefore covers what it stands for relative to the name:
going over from a target to one of its names narrows what a pattern selects, and fixes the level
that it refers to.

- `Resource.Covers.narrow` compares the two applications
- `name_narrows_pattern` says it of substitution, reading and matching
-/

namespace ScoringRules

variable {target ancestor applied : Pattern} {name : Name} {pattern remainder text : String}
  {level : Level}

/-- A pattern that leads with a reference and can be substituted refers to a level. -/
theorem exists_refers_of_substitute (leads : LeadsWithReference pattern)
    (substituted : substitute pattern target = .ok text) :
    ∃ level remainder, Refers pattern level remainder := by
  obtain ⟨named, read, -⟩ := bind_eq_ok_iff.mp substituted
  have read : referencedLevel pattern = .ok named := mapError_eq_ok_iff.mp read
  cases named with
  | some level =>
      obtain ⟨remainder, refers⟩ := exists_refers ((referencedLevel_of_leads leads).mp read)
      exact ⟨level, remainder, refers⟩
  | none => exact absurd read (referencedLevel_ne_none leads)

/-- What a pattern stands for relative to a target covers what it stands for relative to a name that
the target covers. The latter has the name's ancestor at the level that the pattern refers to. -/
theorem Resource.Covers.narrow (covers : target.Covers name.toPattern)
    (refers : Refers pattern level remainder) (found : target.ancestor? level.kind = some ancestor)
    (read : Pattern.parse (ancestor.text ++ remainder) = .ok applied) :
    ∃ (concrete : Name) (narrowed : Pattern), name.ancestor? level.kind = some concrete ∧
      substitute pattern name = .ok narrowed.text ∧
      narrowed.ancestor? level.kind = some concrete.toPattern ∧ applied.Covers narrowed := by
  obtain ⟨_, foundBelow, above⟩ := covers.ancestor? found
  obtain ⟨concrete, foundName, rfl⟩ := Name.exists_ancestor foundBelow
  have kind : concrete.toPattern.kind = level.kind := kind_of_ancestor? foundBelow
  have substituted : substitute pattern name = .ok (concrete.toPattern.text ++ remainder) :=
    refers.substitute_eq_ok_iff.mpr
      ⟨concrete, foundName, congrArg (· ++ remainder) (Name.text_toPattern concrete)⟩
  rw [← kind] at foundName ⊢
  rcases refers.remainder_cases with rfl | ⟨later, rfl⟩
  · -- The pattern is a reference only, and what it stands for is the ancestor itself.
    rw [String.append_empty] at read substituted
    obtain rfl : ancestor = applied := Except.ok.inj ((parse_text ancestor).symm.trans read)
    exact ⟨concrete, concrete.toPattern, foundName, substituted,
      ancestor?_of_mem_lineage concrete.toPattern.mem_lineage_self, above⟩
  · rw [← String.append_assoc] at read substituted
    obtain ⟨narrowed, written, below⟩ := above.parse_append read
    have reread : Resource.parse (concrete.toPattern.text ++ "/" ++ later) = .ok narrowed :=
      written ▸ parse_text narrowed
    rw [← written] at substituted
    exact ⟨concrete, narrowed, foundName, substituted,
      ancestor?_of_parse_append (parse_text concrete.toPattern) reread, below⟩

/-- **A name narrows a pattern.** Where a pattern can be applied to a target, it can be applied to
each name that the target matches. What it then stands for has the name's own ancestor at the level
that the pattern refers to, and matches nothing that the pattern does not match relative to the
target. -/
theorem name_narrows_pattern (matched : matchPattern target name = .ok ())
    (leads : LeadsWithReference pattern) (substituted : substitute pattern target = .ok text)
    (read : Pattern.parse text = .ok applied) :
    ∃ (level : Level) (concrete : Name) (resolved : String) (narrowed : Pattern),
      referencedLevel pattern = .ok (some level) ∧ name.ancestor? level.kind = some concrete ∧
        substitute pattern name = .ok resolved ∧ Pattern.parse resolved = .ok narrowed ∧
        narrowed.ancestor? level.kind = some concrete.toPattern ∧
        ∀ other : Name, matchPattern narrowed other = .ok () →
          matchPattern applied other = .ok () := by
  have covers : target.Covers name.toPattern := matchPattern_eq_ok_iff.mp matched
  obtain ⟨level, remainder, refers⟩ := exists_refers_of_substitute leads substituted
  obtain ⟨ancestor, found, rfl⟩ := refers.substitute_eq_ok_iff.mp substituted
  obtain ⟨concrete, narrowed, foundName, resolved, fixed, narrows⟩ :=
    covers.narrow refers found read
  refine ⟨level, concrete, narrowed.text, narrowed, refers.referencedLevel_eq, foundName, resolved,
    Resource.parse_text narrowed, fixed, ?_⟩
  intro other selected
  have covered : narrowed.Covers other.toPattern := matchPattern_eq_ok_iff.mp selected
  exact matchPattern_eq_ok_iff.mpr (narrows.trans covered)

/-- Any revision of any spec in the project. -/
def anyRevision : Pattern where
  node := .spec (.literal ⟨"store", by decide⟩) .wildcard .wildcard .wildcard (some .wildcard)

/-- A spec without a revision. -/
def latestSpec : Name where
  node := .spec ⟨"store", by decide⟩ ⟨"orders", by decide⟩ ⟨"v2", by decide⟩
    ⟨"asyncapi", by decide⟩ none

/-- The artifacts of any revision of any spec are narrowed to those of one spec, which has no
revision. -/
theorem artifacts_narrowed_to_spec :
    matchPattern anyRevision latestSpec = .ok () ∧
      LeadsWithReference "$resource.spec/artifacts/-" ∧
      substitute "$resource.spec/artifacts/-" anyRevision =
        .ok "projects/store/locations/global/apis/-/versions/-/specs/-@-/artifacts/-" ∧
      Pattern.parse "projects/store/locations/global/apis/-/versions/-/specs/-@-/artifacts/-" =
        .ok { anyRevision with artifact? := some .wildcard } ∧
      ∃ (level : Level) (concrete : Name) (resolved : String) (narrowed : Pattern),
        referencedLevel "$resource.spec/artifacts/-" = .ok (some level) ∧
          latestSpec.ancestor? level.kind = some concrete ∧
          substitute "$resource.spec/artifacts/-" latestSpec = .ok resolved ∧
          Pattern.parse resolved = .ok narrowed ∧
          narrowed.ancestor? level.kind = some concrete.toPattern ∧
          ∀ other : Name, matchPattern narrowed other = .ok () →
            matchPattern { anyRevision with artifact? := some .wildcard } other = .ok () := by
  have matched : matchPattern anyRevision latestSpec = .ok () := by decide +kernel
  have leads : LeadsWithReference "$resource.spec/artifacts/-" := by decide +kernel
  have substituted : substitute "$resource.spec/artifacts/-" anyRevision =
      .ok "projects/store/locations/global/apis/-/versions/-/specs/-@-/artifacts/-" := by
    decide +kernel
  have read :
      Pattern.parse "projects/store/locations/global/apis/-/versions/-/specs/-@-/artifacts/-" =
      .ok { anyRevision with artifact? := some .wildcard } := by decide +kernel
  exact ⟨matched, leads, substituted, read, name_narrows_pattern matched leads substituted read⟩

end ScoringRules
