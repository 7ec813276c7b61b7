import ScoringRules.Proofs.Matching.Outcome
import ScoringRules.Proofs.Resource.Lineage

/-!
# Ancestors, slots and texts

Each slot of an address, its revision apart, is the own slot of one of the resources on the way up,
and the text of each of these is a start of the address's text. What is found above a resource is
therefore told alike by its ancestors, by its slots and by its text.

- `Resource.text_of_parent?` and `Resource.text_of_mem_lineage` compare texts, for a step and all
  the way up
- `Resource.slotAt?_eq_map_ownSlot` finds the slots in the ancestors
- `Resource.AncestryAgrees` collects the agreement, and `ancestry_agrees` proves it
-/

namespace ScoringRules

/-- The place of a resource's own slot in addresses below it. -/
def Kind.place : Kind → Place
  | project => .project
  | api => .api
  | version => .version
  | spec => .spec
  | deployment => .deployment
  | artifact => .artifact

variable {S : Type}

/-- The slot that a node has besides those of its parent, its revision apart. -/
def Node.ownSlot : Node S → S
  | project p => p
  | api _ a => a
  | version _ _ v => v
  | spec _ _ _ s _ => s
  | deployment _ _ d _ => d

namespace Resource

/-- The slot that a resource has besides those of its parent, its revision apart. -/
def ownSlot (resource : Resource S) : S := resource.artifact?.getD resource.node.ownSlot

variable {resource above : Resource S}

/-- An address has a slot for a kind just when it has an ancestor of that kind, whose own slot it
is. -/
theorem slotAt?_eq_map_ownSlot (resource : Resource S) (kind : Kind) :
    resource.slotAt? kind.place = (resource.ancestor? kind).map ownSlot := by
  obtain ⟨node, artifact⟩ := resource
  cases node <;> cases artifact <;> cases kind <;> rfl

/-- A spec or a deployment keeps its revision in the addresses below it. -/
theorem revisionSlot?_of_ancestor?
    (found : resource.ancestor? .spec = some above ∨ resource.ancestor? .deployment = some above) :
    resource.node.revisionSlot? = above.node.revisionSlot? := by
  obtain ⟨node, artifact⟩ := resource
  cases node <;> cases artifact <;> rcases found with ⟨⟨⟩⟩ | ⟨⟨⟩⟩ <;> rfl

/-- Only at or below a spec or a deployment, an address has a revision. -/
theorem revisionSlot?_eq_none (noSpec : resource.ancestor? .spec = none)
    (noDeployment : resource.ancestor? .deployment = none) :
    resource.node.revisionSlot? = none := by
  obtain ⟨node, artifact⟩ := resource
  cases node with
  | project | api | version => rfl
  | spec => cases artifact <;> cases noSpec
  | deployment => cases artifact <;> cases noDeployment

variable [Slot S]

/-- A resource is addressed by one step from its parent. -/
theorem steps_of_parent? (found : resource.parent? = some above) :
    ∃ step, resource.steps = above.steps ++ [step] := by
  obtain ⟨node, artifact⟩ := resource
  cases artifact with
  | some artifact =>
      cases found
      exact ⟨_, rfl⟩
  | none =>
      cases node with
      | project => cases found
      | api | version | spec | deployment =>
          cases found
          exact ⟨_, rfl⟩

/-- The text of an address goes on from that of its parent. -/
theorem text_of_parent? (found : resource.parent? = some above) :
    ∃ later, resource.text = above.text ++ "/" ++ later := by
  obtain ⟨step, steps⟩ := steps_of_parent? found
  obtain ⟨first, others, starts⟩ : ∃ first others, above.steps = first :: others :=
    ⟨_, _, (spelling_true above).symm⟩
  rw [text, text, steps, List.flatMap_append, starts]
  exact ⟨_, String.intercalate_append_of_ne_nil (List.cons_ne_nil _ _) (List.cons_ne_nil _ _)⟩

/-- The texts of the resources above an address are starts of its text, up to a `/`. -/
theorem text_of_mem_lineage (member : above ∈ resource.lineage) :
    above.text = resource.text ∨ ∃ later, resource.text = above.text ++ "/" ++ later := by
  have all : ∀ above ∈ resource.lineage,
      above.text = resource.text ∨ ∃ later, resource.text = above.text ++ "/" ++ later := by
    refine forall_mem_lineage ?here ?step
    case here => exact .inl rfl
    case step =>
      intro below above kept found
      obtain ⟨word, goesOn⟩ := text_of_parent? found
      rcases kept with same | ⟨later, longer⟩
      · exact .inr ⟨word, same ▸ goesOn⟩
      · refine .inr ⟨word ++ "/" ++ later, ?_⟩
        rw [longer, goesOn]
        simp only [String.append_assoc]
  exact all above member

/-- Whether the ancestors of an address agree with its slots and with its text. -/
structure AncestryAgrees (resource : Resource S) : Prop where
  kind : ∀ kind above, resource.ancestor? kind = some above → above.kind = kind
  text : ∀ kind above, resource.ancestor? kind = some above →
    above.text = resource.text ∨ ∃ later, resource.text = above.text ++ "/" ++ later
  ancestors : ∀ kind above other further, resource.ancestor? kind = some above →
    above.ancestor? other = some further → resource.ancestor? other = some further
  project : ∀ kind above, resource.ancestor? kind = some above →
    above.node.projectSlot = resource.node.projectSlot
  slots : ∀ kind : Kind, resource.slotAt? kind.place = (resource.ancestor? kind).map ownSlot
  revised : ∀ above,
    resource.ancestor? .spec = some above ∨ resource.ancestor? .deployment = some above →
      resource.node.revisionSlot? = above.node.revisionSlot?
  unrevised : resource.ancestor? .spec = none → resource.ancestor? .deployment = none →
    resource.node.revisionSlot? = none

end Resource

/-- **Ancestors, slots and texts agree.** Whatever fills its slots, an address has the ancestors
that its slots name, and the texts of its ancestors are starts of its own. -/
theorem ancestry_agrees (S : Type) [Slot S] (resource : Resource S) : resource.AncestryAgrees where
  kind _ _ found := Resource.kind_of_ancestor? found
  text _ _ found := Resource.text_of_mem_lineage (Resource.mem_lineage_of_ancestor? found)
  ancestors _ _ _ _ found foundAbove := Resource.ancestor?_trans found foundAbove
  project _ _ found := Resource.projectSlot_of_mem_lineage (Resource.mem_lineage_of_ancestor? found)
  slots kind := resource.slotAt?_eq_map_ownSlot kind
  revised _ found := Resource.revisionSlot?_of_ancestor? found
  unrevised noSpec noDeployment := Resource.revisionSlot?_eq_none noSpec noDeployment

/-- An artifact of a deployment at a revision. -/
def deployedLog : Name where
  node := .deployment ⟨"fleet", by decide⟩ ⟨"cart", by decide⟩ ⟨"live", by decide⟩
    (some ⟨"rev2", by decide⟩)
  artifact? := some ⟨"log", by decide⟩

/-- The deployment is found above the artifact with its revision and its API, under a shorter text,
and there is neither a version nor a slot for one. -/
theorem deployed_log_ancestry :
    deployedLog.ancestor? .deployment = some { node := deployedLog.node } ∧
      (∃ later, deployedLog.text = Resource.text { node := deployedLog.node } ++ "/" ++ later) ∧
      (deployedLog.ancestor? .deployment).map Resource.ownSlot = deployedLog.slotAt? .deployment ∧
      deployedLog.node.revisionSlot? = some ⟨"rev2", by decide⟩ ∧
      deployedLog.ancestor? .api = Resource.ancestor? { node := deployedLog.node } .api ∧
      deployedLog.slotAt? .version = (deployedLog.ancestor? .version).map Resource.ownSlot := by
  have agrees := ancestry_agrees Identifier deployedLog
  have found : deployedLog.ancestor? .deployment = some { node := deployedLog.node } := rfl
  have longer : Resource.text { node := deployedLog.node } ≠ deployedLog.text := by decide +kernel
  exact ⟨found, (agrees.text _ _ found).resolve_left longer, (agrees.slots .deployment).symm,
    agrees.revised _ (.inr found), agrees.ancestors _ _ .api _ found rfl, agrees.slots .version⟩

end ScoringRules
