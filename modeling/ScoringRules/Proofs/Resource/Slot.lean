import ScoringRules.Proofs.Result
import ScoringRules.Proofs.Text.Words
import ScoringRules.Resource.Parse

/-!
# Tokens of slots

Identifiers and segments are read exactly as they are written, and their tokens contain neither of
the marks that divide an address. `LawfulSlot` packages this, so that what follows from it is proved
for names and patterns at once.

- `Segment.read_eq_ok_iff` covers the three forms of a segment
- `Segment.dollar_mem_text_iff` recognizes references by a single character
- `readRevised_eq_ok_iff` reads a slot with an optional revision
-/

namespace ScoringRules

/-- A type of slots that are read as they are written, in tokens without the marks of an address. -/
class LawfulSlot (S : Type) [Slot S] : Prop where
  read_eq_ok_iff : ∀ {word : String} {slot : S},
    Slot.read word = .ok slot ↔ word = Slot.text slot
  slash_not_mem : ∀ slot : S, '/' ∉ (Slot.text slot).toList
  mark_not_mem : ∀ slot : S, revisionMark ∉ (Slot.text slot).toList

namespace Identifier

/-- Identifiers have plain characters only. -/
theorem not_mem_text {c : Char} (excluded : ¬ Text.IsPlainChar c) (identifier : Identifier) :
    c ∉ identifier.text.toList :=
  fun member => excluded (identifier.valid.2.2 c member)

end Identifier

instance : LawfulSlot Identifier where
  read_eq_ok_iff := Identifier.read_eq_ok_iff
  slash_not_mem := Identifier.not_mem_text (by decide)
  mark_not_mem := Identifier.not_mem_text (by decide)

namespace Segment

/-- No identifier starts a reference. -/
theorem not_startsReference (identifier : Identifier) : ¬ StartsReference identifier.text :=
  fun starts => Identifier.not_mem_text (c := '$') (by decide) identifier
    (starts.subset (by decide))

/-- A token is read as the segment with that text and as no other. -/
theorem read_eq_ok_iff {token : String} {segment : Segment} :
    read token = .ok segment ↔ token = segment.text := by
  unfold read
  constructor
  · intro accepted
    split at accepted
    · next wild =>
        cases accepted
        exact wild
    · split at accepted
      · obtain ⟨level, found, rfl⟩ := map_eq_ok_iff.mp accepted
        exact Level.read_eq_ok_iff.mp found
      · obtain ⟨identifier, found, rfl⟩ := map_eq_ok_iff.mp accepted
        exact Identifier.read_eq_ok_iff.mp found
  · rintro rfl
    cases segment with
    | literal identifier =>
        have proper : (literal identifier).text ≠ wildcardText := identifier.valid.1
        have plain : ¬ StartsReference (literal identifier).text := not_startsReference identifier
        rw [if_neg proper, if_neg plain]
        exact map_eq_ok_iff.mpr ⟨identifier, Identifier.read_eq_ok_iff.mpr rfl, rfl⟩
    | wildcard =>
        have wild : wildcard.text = wildcardText := rfl
        rw [if_pos wild]
    | reference level =>
        have proper : (reference level).text ≠ wildcardText := by cases level <;> decide
        have starts : StartsReference (reference level).text := by cases level <;> decide
        rw [if_neg proper, if_pos starts]
        exact map_eq_ok_iff.mpr ⟨level, Level.read_eq_ok_iff.mpr rfl, rfl⟩

/-- Segments have plain characters, and those of references. -/
theorem mem_text {c : Char} {segment : Segment} (member : c ∈ segment.text.toList) :
    Text.IsPlainChar c ∨ c = '$' ∨ c = '.' := by
  cases segment with
  | literal identifier => exact Or.inl (identifier.valid.2.2 c member)
  | wildcard =>
      obtain rfl : c = '-' := by simpa [text, wildcardText] using member
      exact Or.inl (by decide)
  | reference level =>
      have tokens (level : Level) : level.token.toList.all fun c =>
          Text.IsPlainChar c ∨ c = '$' ∨ c = '.' := by
        cases level <;> decide
      exact of_decide_eq_true (List.all_eq_true.mp (tokens level) c member)

/-- References are the segments with a dollar sign. -/
theorem dollar_mem_text_iff {segment : Segment} :
    '$' ∈ segment.text.toList ↔ segment.IsReference := by
  cases segment with
  | literal identifier =>
      exact iff_of_false (Identifier.not_mem_text (by decide) identifier) id
  | wildcard => exact iff_of_false (by decide) id
  | reference level => exact iff_of_true (by cases level <;> decide) trivial

end Segment

instance : LawfulSlot Segment where
  read_eq_ok_iff := Segment.read_eq_ok_iff
  slash_not_mem _ member := absurd (Segment.mem_text member) (by decide)
  mark_not_mem _ member := absurd (Segment.mem_text member) (by decide)

section Reading

variable {S : Type} [Slot S] [LawfulSlot S]

/-- A slot is read from its text, and from nothing else. -/
theorem readSlot_eq_ok_iff {word : String} {slot : S} :
    readSlot word = .ok slot ↔ word = Slot.text slot := by
  rw [readSlot, mapError_eq_ok_iff, LawfulSlot.read_eq_ok_iff]

/-- A slot is determined by its token. -/
theorem LawfulSlot.text_injective {slot other : S} (same : Slot.text slot = Slot.text other) :
    slot = other := by
  have read : Slot.read (Slot.text other) = .ok slot := LawfulSlot.read_eq_ok_iff.mpr same.symm
  exact Except.ok.inj (read.symm.trans (LawfulSlot.read_eq_ok_iff.mpr rfl))

/-- A slot is read back from its text. -/
@[simp]
theorem readSlot_text (slot : S) : readSlot (Slot.text slot) = .ok slot :=
  readSlot_eq_ok_iff.mpr rfl

/-- A word is read as the slot and the revision that it is written for, and as no others. -/
theorem readRevised_eq_ok_iff {word : String} {slot : S} {revision : Option S} :
    readRevised word = .ok (slot, revision) ↔ word = revisedText slot revision := by
  unfold readRevised
  constructor
  · intro accepted
    rcases Text.cut_cases revisionMark word with ⟨-, cut⟩ | ⟨before, after, -, pasted, cut⟩
    · rw [cut] at accepted
      obtain ⟨_, first, ⟨⟩⟩ := bind_eq_ok_iff.mp accepted
      exact readSlot_eq_ok_iff.mp first
    · rw [cut] at accepted
      obtain ⟨_, first, accepted⟩ := bind_eq_ok_iff.mp accepted
      obtain ⟨_, second, ⟨⟩⟩ := bind_eq_ok_iff.mp accepted
      rw [pasted, readSlot_eq_ok_iff.mp first, readSlot_eq_ok_iff.mp second]
      rfl
  · rintro rfl
    cases revision with
    | none =>
        rw [revisedText, Text.cut_of_not_mem (LawfulSlot.mark_not_mem slot)]
        exact bind_eq_ok_iff.mpr ⟨slot, readSlot_text slot, rfl⟩
    | some revision =>
        rw [revisedText, Text.cut_append (LawfulSlot.mark_not_mem slot)]
        refine bind_eq_ok_iff.mpr ⟨slot, readSlot_text slot, ?_⟩
        exact bind_eq_ok_iff.mpr ⟨revision, readSlot_text revision, rfl⟩

/-- A slot and its revision are read back from their text. -/
@[simp]
theorem readRevised_revisedText (slot : S) (revision : Option S) :
    readRevised (revisedText slot revision) = .ok (slot, revision) :=
  readRevised_eq_ok_iff.mpr rfl

omit [LawfulSlot S] in
/-- The word for a slot with an optional revision holds no characters but theirs and the mark. -/
theorem not_mem_revisedText {c : Char} {slot : S} {revision : Option S}
    (unmarked : c ≠ revisionMark) (free : c ∉ (Slot.text slot).toList)
    (freeRevision : ∀ other ∈ revision.toList, c ∉ (Slot.text other).toList) :
    c ∉ (revisedText slot revision).toList := by
  cases revision with
  | none => exact free
  | some revision =>
      simp only [revisedText, Char.toString, String.toList_append, String.toList_singleton,
        List.mem_append, List.mem_singleton, not_or]
      exact ⟨⟨free, unmarked⟩, freeRevision revision (List.mem_singleton.mpr rfl)⟩

end Reading

end ScoringRules
