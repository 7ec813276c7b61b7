/-!
# Texts

What is read from a text without knowing what it is about: the class of its characters, the words
between the occurrences of a separator, the parts before and after the first of them, and the first
occurrence of another text.

- `IsPlainChar` and `digitValue?` classify characters
- `splitList` and `words` keep empty words, so there is exactly one word more than separators
- `cutChars` and `cut` stop at the first separator
- `replaceFirst` replaces the first occurrence, which may start in the middle of a word
-/

namespace ScoringRules.Text

/-! ## Characters -/

/-- A character that needs no quotes: an ASCII letter or digit, a hyphen or an underscore. -/
def IsPlainChar (c : Char) : Prop := c.isAlphanum = true ∨ c = '-' ∨ c = '_'

instance (c : Char) : Decidable (IsPlainChar c) := inferInstanceAs (Decidable (_ ∨ _ ∨ _))

/-- The value of a digit in a base of at most sixteen. -/
def digitValue? (base : Nat) (c : Char) : Option Nat :=
  let value :=
    if '0' ≤ c ∧ c ≤ '9' then some (c.toNat - '0'.toNat)
    else if 'a' ≤ c ∧ c ≤ 'f' then some (c.toNat - 'a'.toNat + 10)
    else if 'A' ≤ c ∧ c ≤ 'F' then some (c.toNat - 'A'.toNat + 10)
    else none
  value.filter fun value => value < base

/-! ## Words -/

/-- The first word of a list and the words after it, where words end at `separator`. -/
def splitList {α : Type} [DecidableEq α] (separator : α) : List α → List α × List (List α)
  | [] => ([], [])
  | c :: rest =>
      let (word, later) := splitList separator rest
      if c = separator then ([], word :: later) else (c :: word, later)

/-- The first word of `text`. -/
def firstWord (separator : Char) (text : String) : String :=
  String.ofList (splitList separator text.toList).1

/-- The words of `text` in order. -/
def words (separator : Char) (text : String) : List String :=
  firstWord separator text :: (splitList separator text.toList).2.map String.ofList

/-- The characters before the first `separator`, and those after it when there is one. -/
def cutChars (separator : Char) : List Char → List Char × Option (List Char)
  | [] => ([], none)
  | c :: rest =>
      if c = separator then ([], some rest)
      else
        let (before, after) := cutChars separator rest
        (c :: before, after)

/-- The text before the first `separator`, and the text after it when there is one. -/
def cut (separator : Char) (text : String) : String × Option String :=
  let (before, after) := cutChars separator text.toList
  (String.ofList before, after.map String.ofList)

section Splitting

variable {α : Type} [DecidableEq α] {separator c : α}

/-- Splitting a list that starts with a separator starts with an empty word. -/
theorem splitList_cons_self (separator : α) (rest : List α) :
    splitList separator (separator :: rest) =
      ([], (splitList separator rest).1 :: (splitList separator rest).2) := by
  simp [splitList]

/-- What is no separator belongs to the first word. -/
theorem splitList_cons_of_ne (other : c ≠ separator) (rest : List α) :
    splitList separator (c :: rest) =
      (c :: (splitList separator rest).1, (splitList separator rest).2) := by
  simp [splitList, other]

/-- A list without separators is a single word. -/
theorem splitList_of_not_mem {list : List α} (free : separator ∉ list) :
    splitList separator list = (list, []) := by
  induction list with
  | nil => rfl
  | cons c rest ih =>
      simp only [List.mem_cons, not_or] at free
      rw [splitList_cons_of_ne (Ne.symm free.1), ih free.2]

/-- The words of two lists set apart by a separator are the words of the one and then of the
other. -/
theorem splitList_append_separator (separator : α) (left right : List α) :
    splitList separator (left ++ separator :: right) =
      ((splitList separator left).1,
        (splitList separator left).2 ++
          (splitList separator right).1 :: (splitList separator right).2) := by
  induction left with
  | nil => simp [splitList]
  | cons c rest ih =>
      by_cases here : c = separator
      · subst here
        simp [splitList_cons_self, ih]
      · simp [splitList_cons_of_ne here, ih]

end Splitting

/-! ## Replacing -/

/-- `text` with the first occurrence of `old` replaced by `new`; `text` itself when there is
none. -/
def replaceFirstChars (old new : List Char) : List Char → List Char
  | [] => if old = [] then new else []
  | c :: rest =>
      if old <+: c :: rest then new ++ (c :: rest).drop old.length
      else c :: replaceFirstChars old new rest

/-- `text` with the first occurrence of `old` replaced by `new`. -/
def replaceFirst (old new text : String) : String :=
  String.ofList (replaceFirstChars old.toList new.toList text.toList)

/-- An occurrence at the start is the one that is replaced. -/
theorem replaceFirstChars_append (old new rest : List Char) :
    replaceFirstChars old new (old ++ rest) = new ++ rest := by
  cases shape : old ++ rest with
  | nil =>
      obtain ⟨rfl, rfl⟩ := List.append_eq_nil_iff.mp shape
      simp [replaceFirstChars]
  | cons c tail =>
      have found : old <+: c :: tail := shape ▸ List.prefix_append old rest
      rw [replaceFirstChars, if_pos found, ← shape, List.drop_left]

end ScoringRules.Text
