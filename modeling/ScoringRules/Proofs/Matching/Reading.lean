import ScoringRules.Proofs.Matching.Covers
import ScoringRules.Proofs.Resource.Spelling

/-!
# Reading on under a pattern

Reading does not look at the slots that have been read. The same further words therefore lead from a
pattern and from what it covers to a pattern and to what that covers. The relation between the two
states of reading is kept by each step, and so by a run.

- `Progress.Covers.extend` and `Progress.Covers.run` are the simulation, for a step and for a run
- `Resource.Covers.parse_append` is what it says about texts
-/

namespace ScoringRules

/-- Two states of reading, of which one has come to a pattern and the other to one that it
covers. -/
inductive Progress.Covers : Progress Segment → Progress Segment → Prop
  | upTo {pattern covered : Pattern} {located : Bool} (above : pattern.Covers covered) :
      Covers (.upTo pattern located) (.upTo covered located)

namespace Progress.Covers

variable {progress other next : Progress Segment}

/-- What covers a node that has been read is a node at the same point. -/
theorem exists_node {node : Node Segment} {located : Bool}
    (covers : (Progress.upTo { node } located).Covers other) :
    ∃ found, other = Progress.upTo { node := found } located ∧ node.Covers found := by
  obtain @⟨_, ⟨found, _⟩, _, nodes, ⟨⟩⟩ := covers
  exact ⟨found, rfl, nodes⟩

/-- A step that may follow a pattern may follow what it covers. -/
theorem extend {collection : Collection} {word : String} (covers : progress.Covers other)
    (accepted : progress.extend collection word = .ok next) :
    ∃ further, other.extend collection word = .ok further ∧ next.Covers further := by
  unfold Progress.extend at accepted
  split at accepted
  · cases covers
  · obtain ⟨_, rfl, ⟨project⟩⟩ := covers.exists_node
    split at accepted
    · next global =>
        cases accepted
        exact ⟨_, if_pos global, ⟨⟨.project project, .none⟩⟩⟩
    · cases accepted
  · obtain ⟨_, rfl, ⟨project⟩⟩ := covers.exists_node
    obtain ⟨slot, read, ⟨⟩⟩ := bind_eq_ok_iff.mp accepted
    rw [extend_apis]
    exact ⟨_, bind_eq_ok_iff.mpr ⟨slot, read, rfl⟩, ⟨⟨.api project slot.covers_self, .none⟩⟩⟩
  · obtain ⟨_, rfl, nodes⟩ := covers.exists_node
    obtain ⟨slot, read, ⟨⟩⟩ := bind_eq_ok_iff.mp accepted
    cases nodes with
    | api project api =>
        exact ⟨_, bind_eq_ok_iff.mpr ⟨slot, read, rfl⟩,
          ⟨⟨.version project api slot.covers_self, .none⟩⟩⟩
  · obtain ⟨_, rfl, nodes⟩ := covers.exists_node
    obtain ⟨⟨slot, revision⟩, read, ⟨⟩⟩ := bind_eq_ok_iff.mp accepted
    cases nodes with
    | api project api =>
        exact ⟨_, bind_eq_ok_iff.mpr ⟨_, read, rfl⟩,
          ⟨⟨.deployment project api slot.covers_self (Segment.covers_revision revision), .none⟩⟩⟩
  · obtain ⟨_, rfl, nodes⟩ := covers.exists_node
    obtain ⟨⟨slot, revision⟩, read, ⟨⟩⟩ := bind_eq_ok_iff.mp accepted
    cases nodes with
    | version project api version =>
        exact ⟨_, bind_eq_ok_iff.mpr ⟨_, read, rfl⟩,
          ⟨⟨.spec project api version slot.covers_self (Segment.covers_revision revision), .none⟩⟩⟩
  · obtain ⟨found, rfl, nodes⟩ := covers.exists_node
    obtain ⟨slot, read, ⟨⟩⟩ := bind_eq_ok_iff.mp accepted
    rw [extend_artifacts]
    exact ⟨_, bind_eq_ok_iff.mpr ⟨slot, read, rfl⟩, ⟨⟨nodes, .some slot.covers_self⟩⟩⟩
  · cases accepted

/-- What covers a run that is accepted is accepted too, and goes on covering it. -/
theorem run {steps : List (String × String)} (covers : progress.Covers other)
    (accepted : steps.foldlM advance progress = .ok next) :
    ∃ further, steps.foldlM advance other = .ok further ∧ next.Covers further := by
  induction steps generalizing progress other with
  | nil =>
      cases accepted
      exact ⟨other, rfl, covers⟩
  | cons step steps ih =>
      rw [List.foldlM_cons] at accepted
      obtain ⟨middle, first, rest⟩ := bind_eq_ok_iff.mp accepted
      obtain ⟨collection, keyword, extended⟩ := advance_eq_ok_iff.mp first
      obtain ⟨between, matched, related⟩ := covers.extend extended
      obtain ⟨further, reached, final⟩ := ih related rest
      refine ⟨further, ?_, final⟩
      rw [List.foldlM_cons]
      exact bind_eq_ok_iff.mpr
        ⟨between, advance_eq_ok_iff.mpr ⟨collection, keyword, matched⟩, reached⟩

end Progress.Covers

/-- Where an address that goes on from a pattern is read, the address that goes on in the same way
from what the pattern covers is canonical and is covered. -/
theorem Resource.Covers.parse_append {pattern covered applied : Pattern} {later : String}
    (covers : pattern.Covers covered)
    (accepted : Pattern.parse (pattern.text ++ "/" ++ later) = .ok applied) :
    ∃ other : Pattern, other.text = covered.text ++ "/" ++ later ∧ applied.Covers other := by
  obtain ⟨steps, located, read, run⟩ := run_of_parse_append accepted
  obtain ⟨_, reached, ⟨above⟩⟩ := Progress.Covers.run ⟨covers⟩ run
  exact ⟨_, text_of_run read reached, above⟩

end ScoringRules
