import ScoringRules.Proofs.Resource.Grammar
import ScoringRules.Proofs.Resource.Lineage

/-!
# Addresses that go on

Steps are read from the left up to the first one that does not fit. When a text goes on, what it
addresses is therefore still there, above what the longer text addresses, and what is wrong with it
is still what is wrong. Only words that do not pair up are found before any step is read.

- `Progress.exists_refused` finds the step that a run stops at
- `parse_eq_error_iff_run` says why a text with paired words is rejected
- `ReadsFromLeft` collects what this means for texts, and `reading_from_the_left` proves it
-/

namespace ScoringRules

section Pairing

variable {words : List String}

/-- Words cannot be paired up when their number is odd. -/
theorem pairUp_eq_none_iff : pairUp words = none ↔ words.length % 2 = 1 := by
  fun_induction pairUp words with
  | case1 => decide
  | case2 => exact iff_of_true rfl rfl
  | case3 collection word later ih =>
      rw [Option.map_eq_none_iff, ih, List.length_cons, List.length_cons]
      omega

/-- An even number of words makes steps. -/
theorem exists_steps_of_even (even : words.length % 2 = 0) :
    ∃ steps : List (String × String), words = steps.flatMap stepWords := by
  have paired : pairUp words ≠ none := by
    rw [Ne, pairUp_eq_none_iff]
    omega
  obtain ⟨steps, found⟩ := Option.ne_none_iff_exists'.mp paired
  exact ⟨steps, pairUp_eq_some_iff.mp found⟩

end Pairing

section Reading

variable {S : Type} [Slot S]

namespace Progress

variable {progress : Progress S} {fault : Fault} {steps : List (String × String)}

/-- A run that fails stops at a step that does not fit where the steps before it have led. -/
theorem exists_refused (failed : steps.foldlM advance progress = .error fault) :
    ∃ (before : List (String × String)) (step : String × String) (after : List (String × String))
      (reached : Progress S), steps = before ++ step :: after ∧
        before.foldlM advance progress = .ok reached ∧ reached.advance step = .error fault := by
  induction steps generalizing progress with
  | nil => cases failed
  | cons step steps ih =>
      rw [List.foldlM_cons] at failed
      rcases bind_eq_error_iff.mp failed with refused | ⟨next, read, later⟩
      · exact ⟨[], step, steps, progress, rfl, rfl, refused⟩
      · obtain ⟨before, other, after, reached, rfl, run, refused⟩ := ih later
        refine ⟨step :: before, other, after, reached, rfl, ?_, refused⟩
        rw [List.foldlM_cons]
        exact bind_eq_ok_iff.mpr ⟨next, read, run⟩

/-- Steps after the one that a run stops at change nothing. -/
theorem run_append_of_error (failed : steps.foldlM advance progress = .error fault)
    (later : List (String × String)) : (steps ++ later).foldlM advance progress = .error fault := by
  rw [List.foldlM_append]
  exact bind_eq_error_iff.mpr (.inl failed)

end Progress

variable (S) in
/-- Whether a text is rejected with a fault, which is recorded with the whole text. -/
def RejectedWith (text : String) (fault : Fault) : Prop :=
  Resource.parse (S := S) text = .error (.invalid (Slot.subject S) text fault)

/-- A text whose words do not pair up is rejected for this, whatever the words are. -/
theorem rejected_of_odd {text : String} (nonempty : text ≠ "")
    (odd : (Text.words '/' text).length % 2 = 1) : RejectedWith S text .unpaired := by
  rw [RejectedWith, Resource.parse, if_neg nonempty, mapError_eq_error_iff]
  refine ⟨.unpaired, ?_, rfl⟩
  rw [Resource.readWords, pairUp_eq_none_iff.mpr odd]

variable [LawfulSlot S] {text later : String} {steps : List (String × String)}

/-- A text whose words pair up is rejected with the fault that the run through its steps stops
with. -/
theorem parse_eq_error_iff_run (read : Text.words '/' text = steps.flatMap stepWords)
    {error : ParseError} :
    Resource.parse (S := S) text = .error error ↔
      ∃ fault, steps.foldlM Progress.advance (Progress.nothing : Progress S) = .error fault ∧
        ParseError.invalid (Slot.subject S) text fault = error := by
  have paired : pairUp (Text.words '/' text) = some steps := pairUp_eq_some_iff.mpr read
  have nonempty : text ≠ "" := by
    rintro rfl
    cases paired
  rw [Resource.parse, if_neg nonempty, mapError_eq_error_iff, Resource.readWords, paired]
  simp only [bind_eq_error_iff]
  apply exists_congr
  intro fault
  apply and_congr_left
  intro _
  apply or_iff_left
  intro unfinished
  obtain ⟨progress, run, unread⟩ := unfinished
  cases progress with
  | nothing => exact reached_ne_nothing paired run rfl
  | upTo => cases unread

/-- What is wrong with a text stays wrong with it when it goes on by paired words. -/
theorem rejected_append {error : ParseError} (even : (Text.words '/' text).length % 2 = 0)
    (evenLater : (Text.words '/' later).length % 2 = 0)
    (failed : Resource.parse (S := S) text = .error error) :
    ∃ fault, error = .invalid (Slot.subject S) text fault ∧
      RejectedWith S (text ++ "/" ++ later) fault := by
  obtain ⟨steps, read⟩ := exists_steps_of_even even
  obtain ⟨more, readMore⟩ := exists_steps_of_even evenLater
  obtain ⟨fault, run, rfl⟩ := (parse_eq_error_iff_run read).mp failed
  have readAll : Text.words '/' (text ++ "/" ++ later) = (steps ++ more).flatMap stepWords := by
    rw [Text.words_append_slash, read, readMore, List.flatMap_append]
  exact ⟨fault, rfl,
    (parse_eq_error_iff_run readAll).mpr ⟨fault, Progress.run_append_of_error run more, rfl⟩⟩

/-- The fault of a text is that of its first pair of words that does not fit: the words before it
are an address, if there are any, and together with it they are rejected with this fault. -/
theorem exists_leftmost {fault : Fault} (even : (Text.words '/' text).length % 2 = 0)
    (rejected : RejectedWith S text fault) :
    ∃ (before after : List String) (collection word : String),
      Text.words '/' text = before ++ [collection, word] ++ after ∧
        (before = [] ∨ ∃ resource : Resource S,
          Resource.parse ("/".intercalate before) = .ok resource) ∧
        RejectedWith S ("/".intercalate (before ++ [collection, word])) fault := by
  obtain ⟨steps, read⟩ := exists_steps_of_even even
  obtain ⟨_, run, ⟨⟩⟩ := (parse_eq_error_iff_run read).mp rejected
  obtain ⟨before, step, after, reached, rfl, runBefore, refused⟩ := Progress.exists_refused run
  have split : Text.words '/' text =
      before.flatMap stepWords ++ stepWords step ++ after.flatMap stepWords := by
    rw [read, List.flatMap_append, List.flatMap_cons, List.append_assoc]
  have taken : before.flatMap stepWords ++ stepWords step ⊆ Text.words '/' text := by
    rw [split]
    exact List.subset_append_left _ _
  refine ⟨before.flatMap stepWords, after.flatMap stepWords, step.1, step.2, split, ?before, ?pair⟩
  case before =>
    by_cases nonempty : before.flatMap stepWords = []
    · exact .inl nonempty
    · have readBefore := Text.words_intercalate_of_subset nonempty
        (List.Subset.trans (List.subset_append_left _ _) taken)
      cases reached with
      | nothing =>
          exact absurd rfl (reached_ne_nothing (pairUp_eq_some_iff.mpr readBefore) runBefore)
      | upTo resource located =>
          exact .inr ⟨resource,
            Resource.parse_eq_ok_iff_run.mpr ⟨before, located, readBefore, runBefore⟩⟩
  case pair =>
    change RejectedWith S ("/".intercalate (before.flatMap stepWords ++ stepWords step)) fault
    have nonempty : before.flatMap stepWords ++ stepWords step ≠ [] :=
      List.append_ne_nil_of_right_ne_nil _ (List.cons_ne_nil _ _)
    have readPair : Text.words '/' ("/".intercalate (before.flatMap stepWords ++ stepWords step)) =
        (before ++ [step]).flatMap stepWords := by
      rw [Text.words_intercalate_of_subset nonempty taken, List.flatMap_append,
        List.flatMap_singleton]
    have runPair : (before ++ [step]).foldlM Progress.advance (Progress.nothing : Progress S) =
        .error fault := by
      rw [List.foldlM_append]
      refine bind_eq_error_iff.mpr (.inr ⟨reached, runBefore, ?_⟩)
      exact bind_eq_error_iff.mpr (.inl refused)
    exact (parse_eq_error_iff_run readPair).mpr ⟨fault, runPair, rfl⟩

end Reading

/-- Whether texts are read from the left to the right. What a text addresses is above what a longer
text addresses, and what is wrong with paired words is still wrong with more of them; the fault is
that of the first pair which does not fit. Words that do not pair up are rejected for this alone. -/
structure ReadsFromLeft (S : Type) [Slot S] : Prop where
  stays : ∀ (text later : String) (resource longer : Resource S),
    Resource.parse text = .ok resource → Resource.parse (text ++ "/" ++ later) = .ok longer →
      longer.ancestor? resource.kind = some resource
  persists : ∀ (text later : String) (error : ParseError),
    (Text.words '/' text).length % 2 = 0 → (Text.words '/' later).length % 2 = 0 →
      Resource.parse (S := S) text = .error error →
        ∃ fault, error = .invalid (Slot.subject S) text fault ∧
          RejectedWith S (text ++ "/" ++ later) fault
  leftmost : ∀ (text : String) (fault : Fault), (Text.words '/' text).length % 2 = 0 →
    RejectedWith S text fault → ∃ (before after : List String) (collection word : String),
      Text.words '/' text = before ++ [collection, word] ++ after ∧
        (before = [] ∨ ∃ resource : Resource S,
          Resource.parse ("/".intercalate before) = .ok resource) ∧
        RejectedWith S ("/".intercalate (before ++ [collection, word])) fault
  unpaired : ∀ text : String, text ≠ "" → (Text.words '/' text).length % 2 = 1 →
    RejectedWith S text .unpaired

/-- Addresses with lawful slots are read from the left. -/
theorem ReadsFromLeft.of_lawful (S : Type) [Slot S] [LawfulSlot S] : ReadsFromLeft S where
  stays _ _ _ _ parsed accepted := Resource.ancestor?_of_parse_append parsed accepted
  persists _ _ _ even evenLater failed := rejected_append even evenLater failed
  leftmost _ _ even rejected := exists_leftmost even rejected
  unpaired _ nonempty odd := rejected_of_odd nonempty odd

/-- **Reading goes from the left.** A text that goes on from an address can only extend it, and the
fault of a text is the leftmost one, for names and for patterns. -/
theorem reading_from_the_left : ReadsFromLeft Identifier ∧ ReadsFromLeft Segment :=
  ⟨.of_lawful Identifier, .of_lawful Segment⟩

/-- An API of a fixed project. -/
def ledgerApi : Pattern where
  node := .api (.literal ⟨"mint", by decide⟩) (.literal ⟨"ledger", by decide⟩)

/-- The specs of any version of an API, at some revision each. -/
def ledgerSpecs : Pattern where
  node := .spec (.literal ⟨"mint", by decide⟩) (.literal ⟨"ledger", by decide⟩) .wildcard .wildcard
    (some .wildcard)

/-- A pattern extends the API that it starts with. With a mark in the word for the API, which has no
revisions, this is what is wrong whatever follows, unless the words do not pair up. -/
theorem ledger_api_extended :
    ledgerSpecs.ancestor? .api = some ledgerApi ∧
      RejectedWith Segment "projects/mint/apis/ledger@1/versions/-/specs/nope!"
        (.token (.invalidIdentifier "ledger@1")) ∧
      RejectedWith Segment "projects/mint/apis/ledger@1/versions" .unpaired := by
  obtain ⟨-, patterns⟩ := reading_from_the_left
  have parsed : Pattern.parse "projects/mint/apis/ledger" = .ok ledgerApi := rfl
  have extended :
      Pattern.parse "projects/mint/apis/ledger/versions/-/specs/-@-" = .ok ledgerSpecs := rfl
  have failed : Pattern.parse "projects/mint/apis/ledger@1" =
      .error (.invalid .resourcePattern "projects/mint/apis/ledger@1"
        (.token (.invalidIdentifier "ledger@1"))) := rfl
  obtain ⟨_, ⟨⟩, persisting⟩ :=
    patterns.persists "projects/mint/apis/ledger@1" "versions/-/specs/nope!" _
    (by decide +kernel) (by decide +kernel) failed
  exact ⟨patterns.stays "projects/mint/apis/ledger" "versions/-/specs/-@-" _ _ parsed extended,
    persisting,
    patterns.unpaired _ (by decide) (by decide +kernel)⟩

end ScoringRules
