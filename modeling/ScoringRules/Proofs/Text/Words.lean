import Mathlib.Data.List.Infix
import ScoringRules.Text

/-!
# Splitting and joining

The words of a text and the text of joined words determine each other, as long as no word contains
the separator. The part before the first separator and the part after it are determined in the same
way.

- `Text.words_eq_iff` says that splitting at `/` and joining with `/` are inverse
- `Text.cut_cases` says where a text is cut
- `Text.words_append_slash` splits texts that are pasted together
- `Text.eq_of_replaceFirst_eq` says that a replacement changes a text
-/

namespace ScoringRules.Text

/-- Joining the words of a text gives the text back. -/
theorem intercalate_splitList (separator : Char) (text : List Char) :
    [separator].intercalate ((splitList separator text).1 :: (splitList separator text).2) =
      text := by
  induction text with
  | nil => rfl
  | cons c rest ih =>
      by_cases here : c = separator
      · subst here
        rw [splitList_cons_self]
        simpa only [List.intercalate_cons_cons, List.nil_append, List.singleton_append,
          List.cons.injEq, true_and] using ih
      · rw [splitList_cons_of_ne here]
        cases later : (splitList separator rest).2 with
        | nil =>
            rw [later] at ih
            simpa only [List.intercalate_singleton, List.cons.injEq, true_and] using ih
        | cons second others =>
            rw [later] at ih
            simpa only [List.intercalate_cons_cons, List.cons_append, List.cons.injEq, true_and]
              using ih

section Paths

/-- Joining the words of a text gives the text back. -/
theorem intercalate_words (text : String) : "/".intercalate (words '/' text) = text := by
  have slash : "/".toList = ['/'] := rfl
  rw [← String.toList_inj, String.toList_intercalate, slash]
  simpa only [words, firstWord, List.map_cons, String.toList_ofList, List.map_map,
    Function.comp_def, List.map_id'] using intercalate_splitList '/' text.toList

/-- A text without a slash is its only word. -/
theorem words_of_not_mem {text : String} (free : '/' ∉ text.toList) : words '/' text = [text] := by
  rw [words, firstWord, splitList_of_not_mem free, String.ofList_toList, List.map_nil]

/-- The characters of texts that are pasted together at a slash. -/
theorem toList_append_slash (left right : String) :
    (left ++ "/" ++ right).toList = left.toList ++ '/' :: right.toList := by
  simp only [String.toList_append, List.append_assoc]
  rfl

/-- The words of texts that are pasted together are those of the one and then those of the other. -/
theorem words_append_slash (left right : String) :
    words '/' (left ++ "/" ++ right) = words '/' left ++ words '/' right := by
  simp only [words, firstWord, toList_append_slash, splitList_append_separator, List.map_append,
    List.map_cons, List.cons_append]

/-- Splitting what is joined gives the words back, if none has a slash. -/
theorem words_intercalate {list : List String} (nonempty : list ≠ [])
    (free : ∀ word ∈ list, '/' ∉ word.toList) : words '/' ("/".intercalate list) = list := by
  induction list with
  | nil => exact absurd rfl nonempty
  | cons word later ih =>
      have first := words_of_not_mem (free word List.mem_cons_self)
      cases later with
      | nil => rw [String.intercalate_singleton, first]
      | cons second others =>
          rw [String.intercalate_cons_cons, words_append_slash, first,
            ih (List.cons_ne_nil _ _) fun word member => free word (List.mem_cons_of_mem _ member),
            List.singleton_append]

/-- Splitting leaves no separator in the words. -/
theorem not_mem_splitList {α : Type} [DecidableEq α] (separator : α) (list : List α) :
    separator ∉ (splitList separator list).1 ∧
      ∀ word ∈ (splitList separator list).2, separator ∉ word := by
  induction list with
  | nil => exact ⟨List.not_mem_nil, nofun⟩
  | cons c rest ih =>
      by_cases here : c = separator
      · subst here
        rw [splitList_cons_self, List.forall_mem_cons]
        exact ⟨List.not_mem_nil, ih⟩
      · rw [splitList_cons_of_ne here, List.mem_cons, not_or]
        exact ⟨⟨Ne.symm here, ih.1⟩, ih.2⟩

/-- A start of a list that has no separator is a start of the first word. -/
theorem prefix_fst_splitList {α : Type} [DecidableEq α] {separator : α} {run list : List α}
    (starts : run <+: list) (free : separator ∉ run) : run <+: (splitList separator list).1 := by
  induction list generalizing run with
  | nil => exact starts
  | cons c rest ih =>
      cases run with
      | nil => exact List.nil_prefix
      | cons first later =>
          obtain ⟨rfl, startsLater⟩ := List.cons_prefix_cons.mp starts
          rw [List.mem_cons, not_or] at free
          rw [splitList_cons_of_ne (Ne.symm free.1)]
          exact (List.prefix_cons_inj first).mpr (ih startsLater free.2)

/-- Splitting loses nothing but separators: what has none is still there in one of the words. -/
theorem infix_splitList {α : Type} [DecidableEq α] {separator : α} {run list : List α}
    (occurs : run <:+: list) (free : separator ∉ run) :
    run <:+: (splitList separator list).1 ∨
      ∃ word ∈ (splitList separator list).2, run <:+: word := by
  induction list with
  | nil => exact .inl occurs
  | cons c rest ih =>
      rcases List.infix_cons_iff.mp occurs with starts | later
      · exact .inl (prefix_fst_splitList starts free).isInfix
      · by_cases here : c = separator
        · subst here
          rw [splitList_cons_self]
          rcases ih later with inFirst | ⟨word, member, inWord⟩
          · exact .inr ⟨_, List.mem_cons_self, inFirst⟩
          · exact .inr ⟨word, List.mem_cons_of_mem _ member, inWord⟩
        · rw [splitList_cons_of_ne here]
          rcases ih later with inFirst | inLater
          · exact .inl (inFirst.trans (List.suffix_cons c _).isInfix)
          · exact .inr inLater

/-- A word of a text is one of the lists that its characters are split into. -/
theorem toList_of_mem_words {separator : Char} {word text : String}
    (member : word ∈ words separator text) :
    word.toList = (splitList separator text.toList).1 ∨
      word.toList ∈ (splitList separator text.toList).2 := by
  rcases List.mem_cons.mp member with rfl | later
  · rw [firstWord, String.toList_ofList]
    exact .inl rfl
  · obtain ⟨chars, inside, rfl⟩ := List.mem_map.mp later
    rw [String.toList_ofList]
    exact .inr inside

/-- No word has the separator. -/
theorem not_mem_of_mem_words {separator : Char} {word text : String}
    (member : word ∈ words separator text) : separator ∉ word.toList := by
  obtain ⟨first, later⟩ := not_mem_splitList separator text.toList
  rcases toList_of_mem_words member with leading | behind
  · rwa [leading]
  · exact later _ behind

/-- Every character but the separator is in some word. -/
theorem exists_mem_words_of_mem {separator c : Char} {text : String} (member : c ∈ text.toList)
    (other : c ≠ separator) : ∃ word ∈ words separator text, c ∈ word.toList := by
  have occurs := (List.singleton_infix_iff c text.toList).mpr member
  have free : separator ∉ [c] := by
    rw [List.mem_singleton]
    exact Ne.symm other
  rcases infix_splitList occurs free with inFirst | ⟨chars, later, inside⟩
  · refine ⟨firstWord separator text, List.mem_cons_self, ?_⟩
    rwa [firstWord, String.toList_ofList, ← List.singleton_infix_iff]
  · refine ⟨String.ofList chars, List.mem_cons_of_mem _ (List.mem_map_of_mem later), ?_⟩
    rwa [String.toList_ofList, ← List.singleton_infix_iff]

/-- Words that are taken from a text and joined are split into these words again. -/
theorem words_intercalate_of_subset {list : List String} {text : String} (nonempty : list ≠ [])
    (taken : list ⊆ words '/' text) : words '/' ("/".intercalate list) = list :=
  words_intercalate nonempty fun _ member => not_mem_of_mem_words (taken member)

/-- Splitting and joining are inverse. -/
theorem words_eq_iff {text : String} {list : List String} (nonempty : list ≠ [])
    (free : ∀ word ∈ list, '/' ∉ word.toList) :
    words '/' text = list ↔ text = "/".intercalate list := by
  constructor
  · rintro rfl
    exact (intercalate_words text).symm
  · rintro rfl
    exact words_intercalate nonempty free

end Paths

section Cutting

variable {separator : Char}

/-- Nothing is cut where there is no separator. -/
theorem cutChars_of_not_mem {text : List Char} (free : separator ∉ text) :
    cutChars separator text = (text, none) := by
  induction text with
  | nil => rfl
  | cons c rest ih =>
      rw [List.mem_cons, not_or] at free
      rw [cutChars, if_neg (Ne.symm free.1), ih free.2]

/-- A list is cut at the first separator. -/
theorem cutChars_append {before : List Char} (free : separator ∉ before) (after : List Char) :
    cutChars separator (before ++ separator :: after) = (before, some after) := by
  induction before with
  | nil => rw [List.nil_append, cutChars, if_pos rfl]
  | cons c rest ih =>
      rw [List.mem_cons, not_or] at free
      rw [List.cons_append, cutChars, if_neg (Ne.symm free.1), ih free.2]

/-- A text without the separator is not cut. -/
theorem cut_of_not_mem {text : String} (free : separator ∉ text.toList) :
    cut separator text = (text, none) := by
  simp only [cut, cutChars_of_not_mem free, String.ofList_toList, Option.map_none]

/-- A text is cut at the first separator. -/
theorem cut_append {before : String} (free : separator ∉ before.toList) (after : String) :
    cut separator (before ++ separator.toString ++ after) = (before, some after) := by
  have pasted : (before ++ separator.toString ++ after).toList =
      before.toList ++ separator :: after.toList := by
    simp only [String.toList_append, Char.toString, String.toList_singleton, List.append_assoc,
      List.singleton_append]
  simp only [cut, pasted, cutChars_append free, String.ofList_toList, Option.map_some]

/-- A text has no separator, or it is cut into what stands before the first one and what stands
after. -/
theorem cut_cases (separator : Char) (text : String) :
    (separator ∉ text.toList ∧ cut separator text = (text, none)) ∨
      ∃ before after, separator ∉ before.toList ∧
        text = before ++ separator.toString ++ after ∧
        cut separator text = (before, some after) := by
  by_cases present : separator ∈ text.toList
  · obtain ⟨before, after, split, free⟩ := List.eq_append_cons_of_mem present
    have restored : text = String.ofList before ++ separator.toString ++ String.ofList after := by
      rw [← String.toList_inj, split]
      simp only [String.toList_append, Char.toString, String.toList_singleton,
        String.toList_ofList, List.append_assoc, List.singleton_append]
    have free' : separator ∉ (String.ofList before).toList := by rwa [String.toList_ofList]
    refine Or.inr ⟨_, _, free', restored, ?_⟩
    rw [restored, cut_append free']
  · exact Or.inl ⟨present, cut_of_not_mem present⟩

/-- A text is its first word, which may be followed by a separator and anything. -/
theorem firstWord_cases (text : String) :
    text = firstWord '/' text ∨ ∃ later, text = firstWord '/' text ++ "/" ++ later := by
  rcases cut_cases '/' text with ⟨free, -⟩ | ⟨before, after, free, pasted, -⟩
  · exact Or.inl (List.cons.inj (words_of_not_mem free)).1.symm
  · have pasted : text = before ++ "/" ++ after := pasted
    have all : words '/' text = before :: words '/' after := by
      rw [pasted, words_append_slash, words_of_not_mem free, List.singleton_append]
    refine Or.inr ⟨after, ?_⟩
    rw [(List.cons.inj all).1]
    exact pasted

end Cutting

section Occurrences

/-- The words of a list occur in it, the first one at its start. -/
theorem splitList_infix {α : Type} [DecidableEq α] (separator : α) (list : List α) :
    (splitList separator list).1 <+: list ∧
      ∀ word ∈ (splitList separator list).2, word <:+: list := by
  induction list with
  | nil => exact ⟨List.prefix_rfl, nofun⟩
  | cons c rest ih =>
      obtain ⟨first, later⟩ := ih
      have below : rest <:+: c :: rest := (List.suffix_cons c rest).isInfix
      have later : ∀ word ∈ (splitList separator rest).2, word <:+: c :: rest :=
        fun word member => (later word member).trans below
      by_cases here : c = separator
      · subst here
        rw [splitList_cons_self]
        exact ⟨List.nil_prefix, List.forall_mem_cons.mpr ⟨first.isInfix.trans below, later⟩⟩
      · rw [splitList_cons_of_ne here]
        exact ⟨(List.prefix_cons_inj c).mpr first, later⟩

/-- The words of a text occur in it. -/
theorem infix_of_mem_words {separator : Char} {word text : String}
    (member : word ∈ words separator text) : word.toList <:+: text.toList := by
  obtain ⟨first, later⟩ := splitList_infix separator text.toList
  rcases toList_of_mem_words member with leading | behind
  · rw [leading]
    exact first.isInfix
  · exact later _ behind

/-- Only where a text is replaced by itself does its replacement change nothing. -/
theorem eq_of_replaceFirstChars_eq {old new text : List Char} (occurs : old <:+: text)
    (same : replaceFirstChars old new text = text) : new = old := by
  induction text with
  | nil =>
      obtain rfl := List.infix_nil.mp occurs
      rwa [replaceFirstChars, if_pos rfl] at same
  | cons c rest ih =>
      rw [replaceFirstChars] at same
      by_cases here : old <+: c :: rest
      · obtain ⟨tail, split⟩ := id here
        rw [if_pos here, ← split, List.drop_left] at same
        exact List.append_cancel_right same
      · rw [if_neg here] at same
        rcases List.infix_cons_iff.mp occurs with starts | later
        · exact absurd starts here
        · exact ih later (List.cons.inj same).2

/-- A replacement that changes nothing is no replacement. -/
theorem eq_of_replaceFirst_eq {old new text : String} (occurs : old.toList <:+: text.toList)
    (same : replaceFirst old new text = text) : new = old := by
  rw [replaceFirst, ← String.toList_inj, String.toList_ofList] at same
  exact String.toList_inj.mp (eq_of_replaceFirstChars_eq occurs same)

end Occurrences

end ScoringRules.Text
