import ScoringRules.Proofs.Reference.Application

/-!
# Finding references in a text

References are looked for in the words of a text, by what a word starts with, while a pattern has
them in its slots. The two agree as long as each slot has a word for itself. In a word with a
revision they need not: a reference behind the mark is not seen, and one in front of it cannot be
read.

- `referenceWord?_of_parse` says which words the scan of a pattern's text looks at
- `Resource.ScannedWhole` is the condition on the slots
- `scan_tells_references_iff` says that the scan tells the references of a pattern exactly then
- `referencedLevel_of_revised` says what it does otherwise
-/

namespace ScoringRules

/-- The first of some words that is to be read as a reference. -/
def startingWord? (words : List String) : Option String :=
  words.find? fun word => StartsReference word

/-- A first word that starts a reference is found. -/
theorem startingWord?_cons_of_starts {word : String} (starts : StartsReference word)
    (later : List String) : startingWord? (word :: later) = some word :=
  List.find?_cons_of_pos (decide_eq_true starts)

/-- A first word that starts no reference is passed over. -/
theorem startingWord?_cons_of_not_starts {word : String} (plain : ¬ StartsReference word)
    (later : List String) : startingWord? (word :: later) = startingWord? later :=
  List.find?_cons_of_neg (by simpa only [decide_eq_true_eq] using plain)

/-- Words are searched before those that come later. -/
theorem startingWord?_append (words later : List String) :
    startingWord? (words ++ later) = (startingWord? words).or (startingWord? later) :=
  List.find?_append

section Words

variable {S : Type} [Slot S]

/-- The words that the slots of a node are written in. -/
def Node.slotWords (node : Node S) : List String :=
  Slot.text node.projectSlot :: node.stepsBelow.map Prod.snd

/-- The words that the slots of an address are written in. -/
def Resource.slotWords (resource : Resource S) : List String :=
  resource.node.slotWords ++ (resource.artifact?.map Slot.text).toList

/-- No keyword starts a reference. -/
theorem not_startsReference_keyword (collection : Collection) :
    ¬ StartsReference collection.keyword := by
  cases collection <;> decide

/-- The scan passes over the keywords of an address. -/
theorem startingWord?_steps (steps : List (Collection × String)) :
    startingWord? (steps.flatMap fun step => stepWords (spelledStep step)) =
      startingWord? (steps.map Prod.snd) := by
  induction steps with
  | nil => rfl
  | cons step later ih =>
      rw [List.flatMap_cons, startingWord?_append, ih, ← startingWord?_append]
      exact startingWord?_cons_of_not_starts (not_startsReference_keyword step.1) _

/-- The scan of an address looks at the words of its slots. -/
theorem referenceWord?_of_parse [LawfulSlot S] {text : String} {resource : Resource S}
    (read : Resource.parse text = .ok resource) :
    referenceWord? text = startingWord? resource.slotWords := by
  obtain ⟨located, spelled⟩ := Resource.parse_eq_ok_iff.mp read
  let location : List (Collection × String) :=
    if located then [(.locations, globalLocation)] else []
  have artifact : (resource.artifact?.map fun slot =>
      (Collection.artifacts, Slot.text slot)).toList.map Prod.snd =
        (resource.artifact?.map Slot.text).toList := by
    cases resource.artifact? <;> rfl
  have spelling : (resource.spelling located).map Prod.snd =
      [Slot.text resource.node.projectSlot] ++ (location.map Prod.snd ++
        (resource.node.stepsBelow.map Prod.snd ++ (resource.artifact?.map Slot.text).toList)) := by
    rw [Resource.spelling, List.map_cons, List.map_append, Resource.stepsBelow, List.map_append,
      artifact]
    rfl
  have passed : startingWord? (location.map Prod.snd) = none := by
    cases located <;> decide
  have slots : resource.slotWords = [Slot.text resource.node.projectSlot] ++
      (resource.node.stepsBelow.map Prod.snd ++ (resource.artifact?.map Slot.text).toList) := rfl
  change startingWord? (Text.words '/' text) = _
  rw [Resource.words_eq_iff.mpr spelled, startingWord?_steps, spelling, slots]
  simp only [startingWord?_append, passed, Option.none_or]

end Words

section Slots

variable {slot : Segment}

/-- A word that starts with a token is to be read as a reference when the token is one. -/
theorem startsReference_append_iff {rest : String} :
    StartsReference (Slot.text slot ++ rest) ↔ slot.IsReference := by
  rw [StartsReference, String.toList_append]
  have dollar : referencePrefix.toList = '$' :: "resource".toList := rfl
  cases slot with
  | literal identifier =>
      refine iff_of_false ?_ id
      intro starts
      have nonempty : identifier.text.toList ≠ [] := by
        simpa only [ne_eq, String.toList_eq_nil_iff] using identifier.valid.2.1
      obtain ⟨c, tail, shape⟩ := List.exists_cons_of_ne_nil nonempty
      change referencePrefix.toList <+: identifier.text.toList ++ rest.toList at starts
      rw [shape, dollar, List.cons_append, List.cons_prefix_cons] at starts
      have member : '$' ∈ identifier.text.toList := by
        rw [shape, starts.1]
        exact List.mem_cons_self
      exact Identifier.not_mem_text (by decide) identifier member
  | wildcard =>
      refine iff_of_false ?_ id
      intro starts
      change referencePrefix.toList <+: '-' :: rest.toList at starts
      rw [dollar, List.cons_prefix_cons] at starts
      exact absurd starts.1 (by decide)
  | reference level =>
      exact iff_of_true ((startsReference_token level).trans (List.prefix_append _ _)) trivial

/-- The text of a slot starts a reference when the slot is one. -/
theorem startsReference_text_iff : StartsReference (Slot.text slot) ↔ slot.IsReference := by
  have followed := @startsReference_append_iff slot ""
  rwa [String.append_empty] at followed

/-- A word with a revision is to be read as a reference when the slot in front of the mark is
one. -/
theorem startsReference_revisedText_iff {revision : Segment} :
    StartsReference (revisedText slot (some revision)) ↔ slot.IsReference := by
  rw [revisedText, String.append_assoc]
  exact startsReference_append_iff

/-- No token is a word with a revision, which has the mark. -/
theorem revisedText_ne_text {revision other : Segment} :
    revisedText slot (some revision) ≠ Slot.text other := by
  intro same
  apply LawfulSlot.mark_not_mem other
  rw [← same, revisedText]
  simp only [Char.toString, String.toList_append, String.toList_singleton, List.mem_append,
    List.mem_singleton, or_true, true_or]

/-- In a list of tokens, the scan finds nothing when none of the slots is a reference. -/
theorem startingWord?_map_text_eq_none_iff {slots : List Segment} :
    startingWord? (slots.map Slot.text) = none ↔ ¬ ∃ slot ∈ slots, slot.IsReference := by
  simp only [startingWord?, List.find?_eq_none, List.forall_mem_map, decide_eq_true_eq,
    startsReference_text_iff, not_exists, not_and]

end Slots

/-- The level that a slot refers to, if it is a reference. -/
def Segment.level? : Segment → Option Level
  | reference level => some level
  | literal _ | wildcard => none

/-- The level of the first reference among the slots of a pattern, from the project down. -/
def Resource.firstLevel? (pattern : Pattern) : Option Level :=
  pattern.slots.findSome? Segment.level?

/-- A slot with a revision, and the slots above it. -/
structure Revised (S : Type) where
  above : List S
  slot : S
  revision : S

/-- The slot of a node that has a revision, if there is one. -/
def Node.revised? {S : Type} : Node S → Option (Revised S)
  | spec p a v s (some r) => some ⟨[p, a, v], s, r⟩
  | deployment p a d (some r) => some ⟨[p, a], d, r⟩
  | project .. | api .. | version .. | spec _ _ _ _ none | deployment _ _ _ none => none

/-- Whether the first reference of a pattern, if it has any, is one that a scan of its text can
find. With a revision, it has to stand above the slot that has it, or that slot is no reference, and
if the revision is one, it stands in for an equal one that follows. -/
def Resource.ScannedWhole (pattern : Pattern) : Prop :=
  ∀ revised ∈ pattern.node.revised?, (∃ slot ∈ revised.above, slot.IsReference) ∨
    ¬ revised.slot.IsReference ∧
      (revised.revision.IsReference → pattern.artifact? = some revised.revision)

section Levels

/-- The level of the first reference is named by the first token that the scan finds. -/
theorem firstLevel?_map_token (slots : List Segment) :
    (slots.findSome? Segment.level?).map Level.token = startingWord? (slots.map Slot.text) := by
  induction slots with
  | nil => rfl
  | cons slot later ih =>
      by_cases refers : slot.IsReference
      · cases slot with
        | literal | wildcard => exact absurd refers id
        | reference level =>
            exact (startingWord?_cons_of_starts (startsReference_token level) _).symm
      · rw [List.map_cons, startingWord?_cons_of_not_starts (mt startsReference_text_iff.mp refers),
          ← ih]
        cases slot with
        | literal | wildcard => rfl
        | reference level => exact absurd trivial refers

namespace Node

variable {node : Node Segment}

/-- Without a revision, the words of a node are the texts of its slots. -/
theorem slotWords_of_plain (plain : node.revised? = none) :
    node.slotWords = node.slots.map Slot.text := by
  cases node with
  | project | api | version => rfl
  | spec _ _ _ _ r | deployment _ _ _ r =>
      cases r with
      | none => rfl
      | some r => cases plain

/-- With a revision, the last word of a node joins a slot and its revision. -/
theorem slotWords_of_revised {revised : Revised Segment} (found : node.revised? = some revised) :
    node.slotWords = revised.above.map Slot.text ++
      [revisedText revised.slot (some revised.revision)] := by
  cases node with
  | project | api | version => cases found
  | spec _ _ _ _ r | deployment _ _ _ r =>
      cases r with
      | none => cases found
      | some r =>
          cases found
          rfl

/-- With a revision, the last two slots of a node are a slot and its revision. -/
theorem slots_of_revised {revised : Revised Segment} (found : node.revised? = some revised) :
    node.slots = revised.above ++ [revised.slot, revised.revision] := by
  cases node with
  | project | api | version => cases found
  | spec _ _ _ _ r | deployment _ _ _ r =>
      cases r with
      | none => cases found
      | some r =>
          cases found
          rfl

end Node

/-- The token of a revision that is a reference is found when the artifact has the same one. -/
theorem startingWord?_artifact_iff {revision : Segment} {artifact? : Option Segment}
    (refers : revision.IsReference) :
    startingWord? (artifact?.map Slot.text).toList = some (Slot.text revision) ↔
      artifact? = some revision := by
  cases artifact? with
  | none => exact iff_of_false nofun nofun
  | some slot =>
      rw [Option.map_some, Option.toList_some, Option.some.injEq]
      by_cases slotRefers : slot.IsReference
      · rw [startingWord?_cons_of_starts (startsReference_text_iff.mpr slotRefers),
          Option.some.injEq]
        exact ⟨LawfulSlot.text_injective, congrArg Slot.text⟩
      · rw [startingWord?_cons_of_not_starts (mt startsReference_text_iff.mp slotRefers)]
        refine iff_of_false nofun ?_
        rintro rfl
        exact slotRefers refers

/-- From a slot with a revision on, the scan of the words agrees with one of the tokens when the
slot is no reference and the revision is none either, or is followed by the same one. -/
theorem startingWord?_revised_iff {slot revision : Segment} {artifact? : Option Segment} :
    startingWord? (revisedText slot (some revision) :: (artifact?.map Slot.text).toList) =
        startingWord? (Slot.text slot :: Slot.text revision :: (artifact?.map Slot.text).toList) ↔
      ¬ slot.IsReference ∧ (revision.IsReference → artifact? = some revision) := by
  by_cases refers : slot.IsReference
  · rw [startingWord?_cons_of_starts (startsReference_revisedText_iff.mpr refers),
      startingWord?_cons_of_starts (startsReference_text_iff.mpr refers), Option.some.injEq]
    exact iff_of_false revisedText_ne_text fun plain => plain.1 refers
  · rw [startingWord?_cons_of_not_starts (mt startsReference_revisedText_iff.mp refers),
      startingWord?_cons_of_not_starts (mt startsReference_text_iff.mp refers),
      and_iff_right refers]
    by_cases revisionRefers : revision.IsReference
    · rw [startingWord?_cons_of_starts (startsReference_text_iff.mpr revisionRefers),
        startingWord?_artifact_iff revisionRefers]
      exact ⟨fun same _ => same, fun holds => holds revisionRefers⟩
    · rw [startingWord?_cons_of_not_starts (mt startsReference_text_iff.mp revisionRefers)]
      exact iff_of_true rfl fun some => absurd some revisionRefers

/-- The scan of the words of a pattern agrees with one of the tokens of its slots when the pattern
is scanned whole. -/
theorem Resource.scannedWhole_iff {pattern : Pattern} :
    startingWord? pattern.slotWords = startingWord? (pattern.slots.map Slot.text) ↔
      pattern.ScannedWhole := by
  have artifact :
      pattern.artifact?.toList.map Slot.text = (pattern.artifact?.map Slot.text).toList := by
    cases pattern.artifact? <;> rfl
  rw [slotWords, slots, List.map_append, artifact, ScannedWhole]
  cases found : pattern.node.revised? with
  | none =>
      rw [Node.slotWords_of_plain found]
      refine iff_of_true rfl ?_
      intro revised member
      cases member
  | some revised =>
      rw [Node.slotWords_of_revised found, Node.slots_of_revised found, List.map_append,
        List.append_assoc, List.append_assoc, startingWord?_append (revised.above.map Slot.text),
        startingWord?_append (revised.above.map Slot.text)]
      simp only [Option.mem_some_iff, forall_eq']
      by_cases above : ∃ slot ∈ revised.above, slot.IsReference
      · obtain ⟨word, first⟩ : ∃ word, startingWord? (revised.above.map Slot.text) = some word := by
          rw [← Option.ne_none_iff_exists', ne_eq, startingWord?_map_text_eq_none_iff,
            Classical.not_not]
          exact above
        rw [first]
        exact iff_of_true rfl (Or.inl above)
      · rw [startingWord?_map_text_eq_none_iff.mpr above, Option.none_or, Option.none_or,
          or_iff_right above]
        exact startingWord?_revised_iff

/-- A pattern has no first level when it has no references. -/
theorem Resource.firstLevel?_eq_none_iff {pattern : Pattern} :
    pattern.firstLevel? = none ↔ ¬ pattern.HasReference := by
  rw [HasReference, ← startingWord?_map_text_eq_none_iff, ← firstLevel?_map_token,
    Option.map_eq_none_iff]
  rfl

end Levels

section Substituting

variable {S : Type} [Slot S]

/-- Canonical texts start with a keyword, so none of them is a reference. -/
theorem Resource.text_ne_token (resource : Resource S) (level : Level) :
    resource.text ≠ level.token := by
  obtain ⟨_, starts⟩ := resource.text_starts
  intro same
  rw [same] at starts
  cases level <;> cases starts

/-- Substitution leaves a text alone only when it finds no reference in it. -/
theorem substitute_eq_self_iff {target : Resource S} {text : String} :
    substitute text target = .ok text ↔ referencedLevel text = .ok none := by
  rw [substitute]
  cases read : referencedLevel text with
  | error error => apply iff_of_false <;> intro same <;> cases same
  | ok found =>
      cases found with
      | none => exact iff_of_true rfl rfl
      | some level =>
          rw [Except.ok.injEq, iff_false_right (Option.some_ne_none level)]
          intro substituted
          have occurs : level.token ∈ Text.words '/' text :=
            List.mem_of_find?_eq_some (referencedLevel_eq_ok_iff.mp read)
          change (resolveLevel text target level >>= fun ancestor =>
            .ok (Text.replaceFirst level.token ancestor.text text)) = _ at substituted
          obtain ⟨ancestor, -, replaced⟩ := bind_eq_ok_iff.mp substituted
          exact ancestor.text_ne_token level
            (Text.eq_of_replaceFirst_eq (Text.infix_of_mem_words occurs) (Except.ok.inj replaced))

end Substituting

/-- With no reference above a slot with a revision, the scan fails if that slot is one, and
otherwise passes over the revision and goes on to the artifact. -/
theorem referencedLevel_of_revised {text : String} {pattern : Pattern} {revised : Revised Segment}
    (read : Pattern.parse text = .ok pattern) (found : pattern.node.revised? = some revised)
    (plain : ¬ ∃ slot ∈ revised.above, slot.IsReference) :
    (revised.slot.IsReference → ∀ level?, referencedLevel text ≠ .ok level?) ∧
      (¬ revised.slot.IsReference →
        referencedLevel text = .ok (pattern.artifact?.bind Segment.level?)) := by
  have scanned : referenceWord? text = startingWord?
      (revisedText revised.slot (some revised.revision) ::
        (pattern.artifact?.map Slot.text).toList) := by
    rw [referenceWord?_of_parse read, Resource.slotWords, Node.slotWords_of_revised found,
      List.append_assoc, startingWord?_append, startingWord?_map_text_eq_none_iff.mpr plain,
      Option.none_or, List.singleton_append]
  constructor
  · intro refers level?
    rw [ne_eq, referencedLevel_eq_ok_iff, scanned,
      startingWord?_cons_of_starts (startsReference_revisedText_iff.mpr refers)]
    cases level? with
    | none => exact Option.some_ne_none _
    | some level =>
        intro same
        have same : _ = Slot.text (Segment.reference level) := Option.some.inj same
        exact revisedText_ne_text same
  · intro literal
    rw [referencedLevel_eq_ok_iff, scanned,
      startingWord?_cons_of_not_starts (mt startsReference_revisedText_iff.mp literal)]
    cases artifact : pattern.artifact? with
    | none => rfl
    | some slot =>
        have named := firstLevel?_map_token [slot]
        rw [List.findSome?_singleton] at named
        exact named.symm

/-- Whether the scan of a text tells the references of the pattern that the text is read as: it
finds the level of the first one, it finds none just when there is none, and substitution leaves the
text alone only then. -/
structure ScanTells (text : String) (pattern : Pattern) : Prop where
  first : referencedLevel text = .ok pattern.firstLevel?
  absent : referencedLevel text = .ok none ↔ ¬ pattern.HasReference
  unchanged : ∀ (S : Type) [Slot S] (target : Resource S),
    substitute text target = .ok text → ¬ pattern.HasReference

/-- **What the scan of a text tells of a pattern.** Of a text that is read as a pattern, the scan
finds the level of the first reference, and it finds none only when there is none, exactly when no
revision keeps it from the slots: the pattern has no revision, or a slot above the one with the
revision is a reference, or that slot is no reference and the revision is none either or comes again
as the artifact. -/
theorem scan_tells_references_iff {text : String} {pattern : Pattern}
    (read : Pattern.parse text = .ok pattern) :
    ScanTells text pattern ↔ pattern.ScannedWhole := by
  have level : referencedLevel text = .ok pattern.firstLevel? ↔ pattern.ScannedWhole := by
    rw [referencedLevel_eq_ok_iff, referenceWord?_of_parse read, Resource.firstLevel?,
      firstLevel?_map_token, Resource.scannedWhole_iff]
  constructor
  · exact fun tells => level.mp tells.first
  · intro whole
    have first := level.mpr whole
    have absent : referencedLevel text = .ok none ↔ ¬ pattern.HasReference := by
      rw [first, Except.ok.injEq, Resource.firstLevel?_eq_none_iff]
    exact ⟨first, absent, fun S _ target unchanged =>
      absent.mp (substitute_eq_self_iff.mp unchanged)⟩

/-- The specs of some API at a revision that is a reference. -/
def specsAtRevision (api : Segment) : Pattern where
  node := .spec (.literal ⟨"p", by decide⟩) api .wildcard .wildcard (some (.reference .spec))

/-- A reference to the API comes before the one that the scan passes over. -/
theorem scan_tells_of_api_reference :
    Pattern.parse "projects/p/apis/$resource.api/versions/-/specs/-@$resource.spec" =
        .ok (specsAtRevision (.reference .api)) ∧
      (specsAtRevision (.reference .api)).ScannedWhole ∧
      ScanTells "projects/p/apis/$resource.api/versions/-/specs/-@$resource.spec"
        (specsAtRevision (.reference .api)) := by
  have read : Pattern.parse "projects/p/apis/$resource.api/versions/-/specs/-@$resource.spec" =
      .ok (specsAtRevision (.reference .api)) := rfl
  have whole : (specsAtRevision (.reference .api)).ScannedWhole := by
    intro revised found
    cases found
    exact Or.inl ⟨.reference .api, List.mem_cons_of_mem _ List.mem_cons_self, trivial⟩
  exact ⟨read, whole, (scan_tells_references_iff read).mpr whole⟩

/-- A pattern with a reference behind the mark of a revision only is taken to have none. -/
theorem revision_reference_unscanned :
    Pattern.parse "projects/p/apis/-/versions/-/specs/-@$resource.spec" =
        .ok (specsAtRevision .wildcard) ∧
      (specsAtRevision .wildcard).HasReference ∧
      referencedLevel "projects/p/apis/-/versions/-/specs/-@$resource.spec" = .ok none ∧
      ¬ ScanTells "projects/p/apis/-/versions/-/specs/-@$resource.spec"
        (specsAtRevision .wildcard) := by
  have refers : (specsAtRevision .wildcard).HasReference := by decide
  have unseen : referencedLevel "projects/p/apis/-/versions/-/specs/-@$resource.spec" =
      .ok none := rfl
  exact ⟨rfl, refers, unseen, fun tells => tells.absent.mp unseen refers⟩

end ScoringRules
