import ScoringRules.Resource.Error
import ScoringRules.Text

/-!
# Identifiers

An identifier names one level of an address. It is a non-empty word of ASCII letters, digits, `-`
and `_` other than `-` alone, which is kept free for the wildcard.
-/

namespace ScoringRules

/-- The slot text that stands for any identifier. -/
def wildcardText : String := "-"

/-- A text that is an identifier. -/
def IsIdentifier (text : String) : Prop :=
  text ≠ wildcardText ∧ text ≠ "" ∧ ∀ c ∈ text.toList, Text.IsPlainChar c

-- There are finitely many characters, so this could be decided by trying them all; only those of
-- the text are to be tried.
instance (text : String) : Decidable (IsIdentifier text) :=
  have : Decidable (∀ c ∈ text.toList, Text.IsPlainChar c) := List.decidableBAll _ text.toList
  inferInstanceAs (Decidable (_ ∧ _ ∧ _))

/-- A concrete identifier, with the evidence that its text is one. -/
structure Identifier where
  text : String
  valid : IsIdentifier text
deriving DecidableEq

namespace Identifier

/-- Reads a token as an identifier. -/
def read (token : String) : Except TokenError Identifier :=
  if valid : IsIdentifier token then .ok ⟨token, valid⟩
  else .error (.invalidIdentifier token)

/-- Identifiers are ordered as their texts are; as these are ASCII, this is the order of their
bytes. -/
instance : Ord Identifier := ⟨fun left right => compare left.text right.text⟩

/-- A token is read as the identifier with that text and as no other. -/
theorem read_eq_ok_iff {token : String} {identifier : Identifier} :
    read token = .ok identifier ↔ token = identifier.text := by
  unfold read
  constructor
  · intro accepted
    split at accepted
    · cases accepted; rfl
    · cases accepted
  · rintro rfl
    rw [dif_pos identifier.valid]

end Identifier

end ScoringRules
