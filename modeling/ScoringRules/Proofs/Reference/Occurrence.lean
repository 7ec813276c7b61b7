import ScoringRules.Proofs.Matching.Outcome
import ScoringRules.Proofs.Reference.Detection

/-!
# References in the text of a pattern

Each slot of an address is written in its text, and no character of the text is a dollar sign but
those of references. A pattern therefore has a reference just when the text that it is read from has
the start of one, and so has its canonical text, whether or not the location was given.

- `Resource.exists_step_of_mem_slots` finds a slot in the steps of its address
- `Resource.dollar_not_mem_words` says that nothing else is written with a dollar sign
- `references_occur_in_text` puts the two together
-/

namespace ScoringRules

section Slots

variable {S : Type}

/-- The slots of an address are what it has at its places. -/
theorem Resource.slots_eq_filterMap (resource : Resource S) :
    resource.slots = (Place.project :: Place.levels).filterMap resource.slotAt? := by
  obtain ⟨node, artifact⟩ := resource
  cases node with
  | project | api | version => cases artifact <;> rfl
  | spec _ _ _ _ revision | deployment _ _ _ revision => cases revision <;> cases artifact <;> rfl

/-- The slots of an address are those at its places. -/
theorem Resource.mem_slots_iff {resource : Resource S} {slot : S} :
    slot ∈ resource.slots ↔ ∃ place, resource.slotAt? place = some slot := by
  have everywhere (place : Place) : place ∈ Place.project :: Place.levels :=
    List.mem_cons.mpr place.eq_project_or_mem_levels
  rw [slots_eq_filterMap, List.mem_filterMap]
  exact exists_congr fun place => and_iff_right (everywhere place)

variable [Slot S]

/-- A slot occurs in its text with a revision. -/
@[simp]
theorem text_infix_revisedText (slot : S) (revision : Option S) :
    (Slot.text slot).toList <:+: (revisedText slot revision).toList := by
  cases revision with
  | none => exact List.infix_rfl
  | some revision =>
      rw [revisedText, String.append_assoc, String.toList_append]
      exact (List.prefix_append _ _).isInfix

/-- A revision occurs in the text of a slot with it. -/
@[simp]
theorem revision_infix_revisedText (slot revision : S) :
    (Slot.text revision).toList <:+: (revisedText slot (some revision)).toList := by
  rw [revisedText, String.toList_append]
  exact (List.suffix_append _ _).isInfix

/-- Each slot of a node but the project occurs in a step below it. -/
theorem Node.exists_step_of_mem_slots {node : Node S} :
    ∀ slot ∈ node.slots, slot = node.projectSlot ∨
      ∃ step ∈ node.stepsBelow, (Slot.text slot).toList <:+: step.2.toList := by
  cases node with
  | project | api | version => simp [slots, projectSlot]
  | spec _ _ _ _ revision | deployment _ _ _ revision =>
      cases revision <;> simp [slots, projectSlot]

/-- Each slot of an address is written in one of its steps. -/
theorem Resource.exists_step_of_mem_slots {resource : Resource S} {slot : S}
    (member : slot ∈ resource.slots) (located : Bool) :
    ∃ step ∈ resource.spelling located, (Slot.text slot).toList <:+: step.2.toList := by
  rcases List.mem_append.mp member with inNode | inArtifact
  · rcases Node.exists_step_of_mem_slots slot inNode with rfl | ⟨step, below, written⟩
    · exact ⟨_, List.mem_cons_self, List.infix_rfl⟩
    · exact ⟨step, List.mem_cons_of_mem _ (List.mem_append_right _ (List.mem_append_left _ below)),
        written⟩
  · have artifact : resource.artifact? = some slot := Option.mem_toList.mp inArtifact
    refine ⟨(.artifacts, Slot.text slot), ?_, List.infix_rfl⟩
    rw [spelling, stepsBelow, artifact]
    exact List.mem_cons_of_mem _
      (List.mem_append_right _ (List.mem_append_right _ List.mem_cons_self))

/-- Each slot of an address occurs in every text that is read as the address. -/
theorem Resource.text_infix_of_parse [LawfulSlot S] {text : String} {resource : Resource S}
    {slot : S} (read : Resource.parse text = .ok resource) (member : slot ∈ resource.slots) :
    (Slot.text slot).toList <:+: text.toList := by
  obtain ⟨located, spelled⟩ := parse_eq_ok_iff.mp read
  obtain ⟨step, inside, written⟩ := exists_step_of_mem_slots member located
  have word : step.2 ∈ Text.words '/' text := by
    rw [words_eq_iff.mpr spelled]
    exact List.mem_flatMap.mpr ⟨step, inside, List.mem_cons_of_mem _ List.mem_cons_self⟩
  exact written.trans (Text.infix_of_mem_words word)

end Slots

section References

variable {text : String} {pattern : Pattern}

/-- No text of a pattern without references has a dollar sign in its words. -/
theorem Resource.dollar_not_mem_words (read : Pattern.parse text = .ok pattern)
    (free : ¬ pattern.HasReference) : ∀ word ∈ Text.words '/' text, '$' ∉ word.toList := by
  obtain ⟨located, spelled⟩ := parse_eq_ok_iff.mp read
  rw [words_eq_iff.mpr spelled]
  refine not_mem_words (by decide) (by decide) (fun slot member => ?_) located
  exact fun dollar => free ⟨slot, member, Segment.dollar_mem_text_iff.mp dollar⟩

/-- A pattern has a reference when the text that it is read from has the start of one. -/
theorem hasReference_iff_occurs (read : Pattern.parse text = .ok pattern) :
    pattern.HasReference ↔ referencePrefix.toList <:+: text.toList := by
  constructor
  · intro refers
    obtain ⟨slot, member, isReference⟩ := refers
    have starts : StartsReference (Slot.text slot) := startsReference_text_iff.mpr isReference
    have written : (Slot.text slot).toList <:+: text.toList :=
      Resource.text_infix_of_parse read member
    exact (List.IsPrefix.isInfix starts).trans written
  · intro occurs
    have dollar : '$' ∈ text.toList := occurs.subset (by decide)
    obtain ⟨word, member, inWord⟩ := Text.exists_mem_words_of_mem dollar (by decide : '$' ≠ '/')
    by_contra free
    exact Resource.dollar_not_mem_words read free word member inWord

end References

/-- **References show in the text.** Of a text that is read as a pattern, the pattern has a
reference in some slot, at whatever place, just when `$resource` occurs in the text, and that is so
just when it occurs in the canonical text of the pattern. -/
theorem references_occur_in_text {text : String} {pattern : Pattern}
    (read : Pattern.parse text = .ok pattern) :
    (pattern.HasReference ↔ "$resource".toList <:+: text.toList) ∧
      ("$resource".toList <:+: text.toList ↔ "$resource".toList <:+: pattern.text.toList) ∧
      (pattern.HasReference ↔
        ∃ place slot, pattern.slotAt? place = some slot ∧ slot.IsReference) := by
  have reread : Pattern.parse pattern.text = .ok pattern := Resource.parse_text pattern
  have given := hasReference_iff_occurs read
  refine ⟨given, given.symm.trans (hasReference_iff_occurs reread), ?_⟩
  simp only [Resource.HasReference, Resource.mem_slots_iff]
  constructor
  · rintro ⟨slot, ⟨place, there⟩, isReference⟩
    exact ⟨place, slot, there, isReference⟩
  · rintro ⟨place, slot, there, isReference⟩
    exact ⟨slot, ⟨place, there⟩, isReference⟩

/-- The log of a deployment at a revision that is a reference. -/
def revisedLog : Pattern where
  node := .deployment (.literal ⟨"harbor", by decide⟩) .wildcard (.literal ⟨"night", by decide⟩)
    (some (.reference .version))
  artifact? := some (.literal ⟨"watch-log", by decide⟩)

/-- The reference, which stands behind the mark of a revision, is found in the pattern, in the text
and in the canonical text. -/
theorem revised_log_reference_occurs :
    Pattern.parse "projects/harbor/apis/-/deployments/night@$resource.version/artifacts/watch-log" =
        .ok revisedLog ∧
      revisedLog.HasReference ∧ "$resource".toList <:+: revisedLog.text.toList := by
  have read : Pattern.parse
      "projects/harbor/apis/-/deployments/night@$resource.version/artifacts/watch-log" =
      .ok revisedLog := by decide +kernel
  obtain ⟨given, canonical, places⟩ := references_occur_in_text read
  have refers : revisedLog.HasReference :=
    places.mpr ⟨.revision, .reference .version, rfl, trivial⟩
  exact ⟨read, refers, canonical.mp (given.mp refers)⟩

end ScoringRules
