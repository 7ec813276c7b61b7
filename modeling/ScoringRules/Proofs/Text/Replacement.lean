import ScoringRules.Proofs.Text.Words

/-!
# Replacing a word

The first occurrence of a text is looked for in a whole text, not in its words. Where the text to be
replaced is a word and contains no separator, the first occurrence is that word just when no word
before it contains the text.

- `Text.replaceFirstChars_append_separator` passes over a word
- `Text.replaceFirst_intercalate_iff` says when a word is what is replaced
-/

namespace ScoringRules.Text

section Characters

variable {separator : Char} {old new text : List Char}

/-- What starts a text that goes on after a word with a separator, and holds none, starts the
word. -/
theorem prefix_of_prefix_append_separator {word rest : List Char} (free : separator ∉ old)
    (starts : old <+: word ++ separator :: rest) : old <+: word := by
  rcases Nat.lt_or_ge word.length old.length with longer | shorter
  · have whole : word ++ [separator] <+: word ++ separator :: rest :=
      (List.prefix_append_right_inj word).mpr ⟨rest, rfl⟩
    have within : word ++ [separator] <+: old :=
      List.prefix_of_prefix_length_le whole starts
        (by rw [List.length_append, List.length_singleton]; exact longer)
    exact absurd (within.subset (List.mem_append_right word List.mem_cons_self)) free
  · exact List.prefix_of_prefix_length_le starts (List.prefix_append word _) shorter

/-- A word in which the old text does not occur is passed over. -/
theorem replaceFirstChars_append_separator {word : List Char} (free : separator ∉ old)
    (absent : ¬ old <:+: word) (rest : List Char) :
    replaceFirstChars old new (word ++ separator :: rest) =
      word ++ separator :: replaceFirstChars old new rest := by
  have elsewhere : ¬ old <+: word ++ separator :: rest := fun starts =>
    absent (prefix_of_prefix_append_separator free starts).isInfix
  induction word with
  | nil =>
      rw [List.nil_append] at elsewhere
      rw [List.nil_append, replaceFirstChars, if_neg elsewhere, List.nil_append]
  | cons c word ih =>
      have absentBelow : ¬ old <:+: word := fun occurs =>
        absent (occurs.trans (List.suffix_cons c word).isInfix)
      rw [List.cons_append] at elsewhere
      rw [List.cons_append, replaceFirstChars, if_neg elsewhere, List.cons_append,
        ih absentBelow fun starts =>
          absentBelow (prefix_of_prefix_append_separator free starts).isInfix]

/-- Where the old text occurs, what follows does not matter. -/
theorem replaceFirstChars_append_of_occurs (occurs : old <:+: text) (rest : List Char) :
    replaceFirstChars old new (text ++ rest) = replaceFirstChars old new text ++ rest := by
  induction text with
  | nil =>
      obtain rfl := List.infix_nil.mp occurs
      exact replaceFirstChars_append [] new rest
  | cons c tail ih =>
      by_cases here : old <+: c :: tail
      · obtain ⟨later, split⟩ := here
        rw [← split, List.append_assoc, replaceFirstChars_append, replaceFirstChars_append,
          List.append_assoc]
      · have inTail : old <:+: tail := (List.infix_cons_iff.mp occurs).resolve_left here
        have elsewhere : ¬ old <+: c :: (tail ++ rest) := fun starts =>
          here (List.prefix_of_prefix_length_le starts (List.prefix_append (c :: tail) rest)
            (Nat.le_succ_of_le inTail.length_le))
        rw [List.cons_append, replaceFirstChars, if_neg elsewhere, ih inTail, replaceFirstChars,
          if_neg here, List.cons_append]

/-- A replacement that starts with another character shows in the text in which it takes place. -/
theorem replaceFirstChars_append_ne {first other : Char} {oldRest newRest : List Char}
    (differs : other ≠ first) (occurs : first :: oldRest <:+: text) (left right : List Char) :
    replaceFirstChars (first :: oldRest) (other :: newRest) text ++ left ≠ text ++ right := by
  induction text with
  | nil => exact absurd (List.infix_nil.mp occurs) (List.cons_ne_nil _ _)
  | cons c tail ih =>
      intro same
      by_cases here : first :: oldRest <+: c :: tail
      · obtain ⟨later, split⟩ := here
        rw [← split, replaceFirstChars_append] at same
        exact differs (List.cons.inj same).1
      · rw [replaceFirstChars, if_neg here] at same
        exact ih ((List.infix_cons_iff.mp occurs).resolve_left here) (List.cons.inj same).2

end Characters

section Words

variable {old new : String} {first other : Char} {oldRest newRest : List Char}

/-- A text is replaced character by character. -/
theorem toList_replaceFirst (old new text : String) :
    (replaceFirst old new text).toList = replaceFirstChars old.toList new.toList text.toList :=
  String.toList_ofList

/-- Replacing the first occurrence of a word's text replaces that word just when no word before it
contains the text. The replacement has to start with another character, or it might not show what it
replaces. -/
theorem replaceFirst_intercalate_iff (free : '/' ∉ old.toList)
    (oldStarts : old.toList = first :: oldRest) (newStarts : new.toList = other :: newRest)
    (differs : other ≠ first) (before after : List String) :
    replaceFirst old new ("/".intercalate (before ++ old :: after)) =
        "/".intercalate (before ++ new :: after) ↔
      ∀ word ∈ before, ¬ old.toList <:+: word.toList := by
  induction before with
  | nil =>
      refine iff_of_true ?_ nofun
      rw [← String.toList_inj, toList_replaceFirst, List.nil_append, List.nil_append]
      cases after with
      | nil =>
          rw [String.intercalate_singleton, String.intercalate_singleton]
          simpa only [List.append_nil] using replaceFirstChars_append old.toList new.toList []
      | cons next later =>
          rw [String.intercalate_cons_cons, String.intercalate_cons_cons, toList_append_slash,
            toList_append_slash, replaceFirstChars_append]
  | cons word before ih =>
      have joined (inner : String) : "/".intercalate (word :: before ++ inner :: after) =
          word ++ "/" ++ "/".intercalate (before ++ inner :: after) := by
        cases before <;> exact String.intercalate_cons_cons
      rw [List.forall_mem_cons, joined, joined, ← String.toList_inj, toList_replaceFirst,
        toList_append_slash, toList_append_slash]
      by_cases occurs : old.toList <:+: word.toList
      · refine iff_of_false ?_ fun absent => absent.1 occurs
        rw [replaceFirstChars_append_of_occurs occurs]
        rw [oldStarts] at occurs
        rw [oldStarts, newStarts]
        exact replaceFirstChars_append_ne differs occurs _ _
      · rw [replaceFirstChars_append_separator free occurs, List.append_cancel_left_eq,
          List.cons.injEq, and_iff_right rfl, ← toList_replaceFirst, String.toList_inj, ih,
          and_iff_right occurs]

end Words

end ScoringRules.Text
