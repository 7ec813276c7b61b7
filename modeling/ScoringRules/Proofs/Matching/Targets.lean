import ScoringRules.Proofs.Matching.Covers
import ScoringRules.Proofs.Validation.Acceptance

/-!
# Targets that some name matches

A reference in a target, wherever it stands, covers nothing that a name has. A pattern without
references, on the other hand, covers its sample, in which a fixed identifier stands for each
wildcard. A target therefore applies to some name just when validation accepts it.

- `Resource.sample` is the name, and `Resource.covers_sample` says that it is covered
- `Resource.exists_covered_iff` tells the patterns that match some name
- `target_accepted_iff_matchable` is what it says about validation
-/

namespace ScoringRules

namespace Segment

/-- An identifier that a slot accepts, if it accepts any. -/
def sample : Segment → Identifier
  | literal identifier => identifier
  | wildcard | reference _ => ⟨"any", by decide⟩

/-- A slot without reference covers its sample. -/
theorem covers_sample {slot : Segment} (free : ¬ slot.IsReference) :
    slot.Covers (some (literal slot.sample)) := by
  cases slot with
  | literal => rfl
  | wildcard => exact wildcard_covers id
  | reference => exact absurd trivial free

/-- A revision without reference covers its sample. -/
theorem covers_revision_sample {revision : Option Segment}
    (free : ∀ slot ∈ revision.toList, ¬ slot.IsReference) :
    (revision.getD wildcard).Covers ((revision.map sample).map literal) := by
  cases revision with
  | none => exact nofun
  | some slot => exact covers_sample (free slot List.mem_cons_self)

end Segment

namespace Node

/-- A node without references covers its sample. -/
theorem covers_sample {node : Node Segment} (free : ∀ slot ∈ node.slots, ¬ slot.IsReference) :
    node.Covers ((node.map Segment.sample).map Segment.literal) := by
  cases node with
  | project p =>
      simp only [slots, List.forall_mem_cons] at free
      exact .project (Segment.covers_sample free.1)
  | api p a =>
      simp only [slots, List.forall_mem_cons] at free
      exact .api (Segment.covers_sample free.1) (Segment.covers_sample free.2.1)
  | version p a v =>
      simp only [slots, List.forall_mem_cons] at free
      exact .version (Segment.covers_sample free.1) (Segment.covers_sample free.2.1)
        (Segment.covers_sample free.2.2.1)
  | spec p a v s r =>
      simp only [slots, List.forall_mem_append, List.forall_mem_cons] at free
      obtain ⟨⟨project, api, version, spec, -⟩, revision⟩ := free
      exact .spec (Segment.covers_sample project) (Segment.covers_sample api)
        (Segment.covers_sample version) (Segment.covers_sample spec)
        (Segment.covers_revision_sample revision)
  | deployment p a d r =>
      simp only [slots, List.forall_mem_append, List.forall_mem_cons] at free
      obtain ⟨⟨project, api, deployment, -⟩, revision⟩ := free
      exact .deployment (Segment.covers_sample project) (Segment.covers_sample api)
        (Segment.covers_sample deployment) (Segment.covers_revision_sample revision)

end Node

namespace Resource

/-- The pattern of a name has no references. -/
theorem not_hasReference_toPattern (name : Name) : ¬ name.toPattern.HasReference := by
  intro refers
  obtain ⟨slot, member, isReference⟩ := refers
  rw [Name.toPattern, slots_map] at member
  obtain ⟨identifier, -, rfl⟩ := List.mem_map.mp member
  exact isReference

/-- A name that a pattern matches, if it matches any. -/
def sample (pattern : Pattern) : Name := pattern.map Segment.sample

/-- A pattern without references covers its sample. -/
theorem covers_sample {pattern : Pattern} (free : ¬ pattern.HasReference) :
    pattern.Covers pattern.sample.toPattern := by
  obtain ⟨node, artifact⟩ := pattern
  simp only [HasReference, slots, not_exists, not_and, List.forall_mem_append] at free
  refine ⟨Node.covers_sample free.1, ?_⟩
  cases artifact with
  | none => exact .none
  | some slot => exact .some (Segment.covers_sample (free.2 slot List.mem_cons_self))

/-- The patterns that match some name are those without references. -/
theorem exists_covered_iff {pattern : Pattern} :
    (∃ name : Name, pattern.Covers name.toPattern) ↔ ¬ pattern.HasReference := by
  constructor
  · intro matchable
    obtain ⟨name, covers⟩ := matchable
    exact mt covers.hasReference_iff.mpr (not_hasReference_toPattern name)
  · exact fun free => ⟨pattern.sample, covers_sample free⟩

end Resource

/-- **Targets that apply.** Validation accepts the target pattern of a definition just when there is
a name that the target matches. -/
theorem target_accepted_iff_matchable (parent : String) (selector : Selector) :
    (∃ target, parseTarget parent selector.pattern = .ok target) ↔
      ∃ name, matchTarget selector name parent = .ok () := by
  simp only [parseTarget_eq_ok_iff, matchTarget_eq_ok_iff]
  constructor
  · intro accepted
    obtain ⟨target, parsed, free⟩ := accepted
    obtain ⟨name, covers⟩ := Resource.exists_covered_iff.mpr free
    exact ⟨name, target, parsed, covers⟩
  · intro matchable
    obtain ⟨name, target, parsed, covers⟩ := matchable
    exact ⟨target, parsed, Resource.exists_covered_iff.mp ⟨name, covers⟩⟩

end ScoringRules
