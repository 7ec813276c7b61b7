import ScoringRules.Proofs.Resource.Spelling

/-!
# Going up from an address

The lineage of a resource goes down in kind strictly, so it has one resource of a kind at most, and
what stands in it is found by its kind. Reading on from an address only puts resources below it, so
the lineage of what is reached ends with the lineage of what was there.

- `Resource.ancestor?_of_mem_lineage` finds the members of a lineage
- `Progress.lineage_of_extend` and `Progress.lineage_of_run` are the invariant, for a step and for a
  run
- `Resource.ancestor?_of_parse_append` says that reading on keeps the address it started from
-/

namespace ScoringRules

variable {S : Type}

namespace Resource

variable {resource above : Resource S}

/-- Kinds go down along a lineage. -/
theorem pairwise_lineage (resource : Resource S) :
    resource.lineage.Pairwise fun below above => above.kind < below.kind := by
  obtain ⟨node, artifact⟩ := resource
  cases node <;> cases artifact <;>
    simp only [lineage, Node.lineage, List.map_cons, List.map_nil, List.pairwise_cons,
      List.forall_mem_cons, List.not_mem_nil, false_imp_iff, implies_true, and_true, kind,
      Node.kind, List.Pairwise.nil] <;>
    decide

/-- An address is in its own lineage. -/
theorem mem_lineage_self (resource : Resource S) : resource ∈ resource.lineage := by
  rw [lineage_eq]
  exact List.mem_cons_self

/-- What is in a lineage is the ancestor of its kind. -/
theorem ancestor?_of_mem_lineage (member : above ∈ resource.lineage) :
    resource.ancestor? above.kind = some above := by
  have descending := resource.pairwise_lineage
  rw [ancestor?]
  generalize resource.lineage = lineage at member descending
  induction descending with
  | nil => exact absurd member List.not_mem_nil
  | @cons first later below _ ih =>
      rcases List.mem_cons.mp member with rfl | member
      · exact List.find?_cons_of_pos (decide_eq_true rfl)
      · have other : first.kind ≠ above.kind := by
          intro same
          have less : above.kind.rank < first.kind.rank := below above member
          rw [same] at less
          exact Nat.lt_irrefl _ less
        rw [List.find?_cons_of_neg (by simpa only [decide_eq_true_eq] using other)]
        exact ih member

/-- Ancestors are in the lineage. -/
theorem mem_lineage_of_ancestor? {kind : Kind} (found : resource.ancestor? kind = some above) :
    above ∈ resource.lineage :=
  List.mem_of_find?_eq_some found

/-- The ancestor of a kind is of that kind. -/
theorem kind_of_ancestor? {kind : Kind} (found : resource.ancestor? kind = some above) :
    above.kind = kind := by
  rw [ancestor?] at found
  simpa only [decide_eq_true_eq] using List.find?_some found

/-- The parent is in the lineage. -/
theorem mem_lineage_of_parent? (found : resource.parent? = some above) :
    above ∈ resource.lineage := by
  rw [lineage_eq resource, found]
  exact List.mem_cons_of_mem _ above.mem_lineage_self

/-- What the step to a parent keeps holds all the way up. -/
theorem forall_mem_lineage {Kept : Resource S → Prop} (here : Kept resource)
    (step : ∀ below above, Kept below → below.parent? = some above → Kept above) :
    ∀ above ∈ resource.lineage, Kept above := by
  generalize all : resource.lineage = lineage
  induction lineage generalizing resource with
  | nil => exact nofun
  | cons first later ih =>
      rw [lineage_eq] at all
      obtain ⟨rfl, rest⟩ := List.cons.inj all
      refine List.forall_mem_cons.mpr ⟨here, ?_⟩
      cases found : resource.parent? with
      | none =>
          rw [found] at rest
          cases rest
          exact nofun
      | some above =>
          rw [found] at rest
          exact ih (step resource above here found) rest

/-- The lineage of what is above a resource is the end of its own. -/
theorem lineage_suffix_of_mem_lineage (member : above ∈ resource.lineage) :
    above.lineage <:+ resource.lineage := by
  have all : ∀ above ∈ resource.lineage, above.lineage <:+ resource.lineage := by
    refine forall_mem_lineage ?here ?step
    case here => exact List.suffix_rfl
    case step =>
      intro below above kept found
      have goesOn : below.lineage = below :: above.lineage := by
        rw [lineage_eq below, found]
        rfl
      exact (goesOn ▸ List.suffix_cons below above.lineage).trans kept
  exact all above member

/-- An ancestor of an ancestor is an ancestor. -/
theorem ancestor?_trans {kind other : Kind} {further : Resource S}
    (found : resource.ancestor? kind = some above)
    (foundAbove : above.ancestor? other = some further) :
    resource.ancestor? other = some further := by
  have ends := lineage_suffix_of_mem_lineage (mem_lineage_of_ancestor? found)
  rw [← kind_of_ancestor? foundAbove]
  exact ancestor?_of_mem_lineage (ends.subset (mem_lineage_of_ancestor? foundAbove))

/-- Going up drops slots from the end. -/
theorem slots_prefix_of_mem_lineage (member : above ∈ resource.lineage) :
    above.slots <+: resource.slots := by
  have all : ∀ above ∈ resource.lineage, above.slots <+: resource.slots := by
    obtain ⟨node, artifact⟩ := resource
    cases node <;> cases artifact <;>
      simp [lineage, Node.lineage, slots, Node.slots]
  exact all above member

/-- Going up stays in the project. -/
theorem projectSlot_of_mem_lineage (member : above ∈ resource.lineage) :
    above.node.projectSlot = resource.node.projectSlot := by
  have all : ∀ above ∈ resource.lineage, above.node.projectSlot = resource.node.projectSlot := by
    obtain ⟨node, artifact⟩ := resource
    cases node <;> cases artifact <;> simp [lineage, Node.lineage, Node.projectSlot]
  exact all above member

end Resource

section Reading

namespace Progress

/-- The resource that has been addressed so far and all above it. -/
def lineage : Progress S → List (Resource S)
  | nothing => []
  | upTo resource _ => resource.lineage

variable [Slot S] {progress next : Progress S}

/-- A step keeps what has been addressed, or goes down from it. -/
theorem lineage_of_extend {collection : Collection} {word : String}
    (accepted : progress.extend collection word = .ok next) :
    progress.lineage <:+ next.lineage := by
  unfold extend at accepted
  split at accepted
  · exact List.nil_suffix
  · split at accepted
    · cases accepted
      exact List.suffix_rfl
    · cases accepted
  · obtain ⟨_, -, ⟨⟩⟩ := bind_eq_ok_iff.mp accepted
    exact List.suffix_cons _ _
  · obtain ⟨_, -, ⟨⟩⟩ := bind_eq_ok_iff.mp accepted
    exact List.suffix_cons _ _
  · obtain ⟨⟨_, _⟩, -, ⟨⟩⟩ := bind_eq_ok_iff.mp accepted
    exact List.suffix_cons _ _
  · obtain ⟨⟨_, _⟩, -, ⟨⟩⟩ := bind_eq_ok_iff.mp accepted
    exact List.suffix_cons _ _
  · obtain ⟨_, -, ⟨⟩⟩ := bind_eq_ok_iff.mp accepted
    exact List.suffix_cons _ _
  · cases accepted

/-- Reading on keeps the lineage of what has been read. -/
theorem lineage_of_run {steps : List (String × String)}
    (accepted : steps.foldlM advance progress = .ok next) : progress.lineage <:+ next.lineage :=
  run_keeps (fun reached => progress.lineage <:+ reached.lineage)
    (fun kept extended => kept.trans (lineage_of_extend extended)) accepted List.suffix_rfl

end Progress

/-- What is read on from an address is found below it. -/
theorem Resource.ancestor?_of_parse_append [Slot S] {resource longer : Resource S}
    {text later : String} (parsed : Resource.parse text = .ok resource)
    (accepted : Resource.parse (text ++ "/" ++ later) = .ok longer) :
    longer.ancestor? resource.kind = some resource := by
  obtain ⟨first, located, read, run⟩ := parse_eq_ok_iff_run.mp parsed
  obtain ⟨steps, reached, -, runOn⟩ := run_on_of_parse_append read run accepted
  have below : resource.lineage <:+ longer.lineage := Progress.lineage_of_run runOn
  exact ancestor?_of_mem_lineage (below.subset resource.mem_lineage_self)

end Reading

end ScoringRules
