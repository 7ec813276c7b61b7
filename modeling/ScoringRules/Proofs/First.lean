/-!
# The first entry that meets a condition

Checks are made in an order, and the first one that fails is reported.

- `IsFirst` is the first entry of a list that meets a condition, by the entries that are passed over
- `find?_eq_some_iff_isFirst` identifies it with what searching finds
-/

namespace ScoringRules

variable {α : Type} {condition : α → Prop} {entries : List α} {entry other : α}

/-- Whether an entry is the first one of a list that meets a condition. -/
inductive IsFirst (condition : α → Prop) : List α → α → Prop
  | here {entry : α} {rest : List α} (meets : condition entry) :
      IsFirst condition (entry :: rest) entry
  | later {entry passed : α} {rest : List α} (passes : ¬ condition passed)
      (first : IsFirst condition rest entry) : IsFirst condition (passed :: rest) entry

namespace IsFirst

/-- The first entry that meets a condition meets it. -/
theorem meets (first : IsFirst condition entries entry) : condition entry := by
  induction first with
  | here meets => exact meets
  | later _ _ ih => exact ih

/-- The first entry that meets a condition is an entry. -/
theorem mem (first : IsFirst condition entries entry) : entry ∈ entries := by
  induction first with
  | here _ => exact List.mem_cons_self
  | later _ _ ih => exact List.mem_cons_of_mem _ ih

/-- There is one first entry at most. -/
theorem unique (first : IsFirst condition entries entry)
    (second : IsFirst condition entries other) : entry = other := by
  induction first with
  | here meets =>
      cases second with
      | here _ => rfl
      | later passes _ => exact absurd meets passes
  | later passes _ ih =>
      cases second with
      | here meets => exact absurd meets passes
      | later _ second => exact ih second

end IsFirst

/-- In a list of one entry, that entry is the first one if it meets the condition. -/
theorem isFirst_singleton_iff :
    IsFirst condition [other] entry ↔ entry = other ∧ condition other := by
  constructor
  · intro first
    cases first with
    | here meets => exact ⟨rfl, meets⟩
    | later _ first => cases first
  · rintro ⟨rfl, meets⟩
    exact .here meets

/-- Searching finds the first entry. -/
theorem find?_eq_some_iff_isFirst {test : α → Bool} :
    entries.find? test = some entry ↔ IsFirst (fun entry => test entry) entries entry := by
  induction entries with
  | nil => exact iff_of_false nofun nofun
  | cons head rest ih =>
      by_cases meets : test head
      · rw [List.find?_cons_of_pos meets]
        constructor
        · rintro ⟨⟩
          exact .here meets
        · intro first
          obtain rfl := first.unique (.here meets)
          rfl
      · rw [List.find?_cons_of_neg meets, ih]
        constructor
        · exact .later meets
        · intro first
          cases first with
          | here meets' => exact absurd meets' meets
          | later _ first => exact first

end ScoringRules
