import ScoringRules.Proofs.Resource.Spelling

/-!
# The grammar of addresses

An address names its project, may give the location, goes down a branch of the hierarchy, and may
end with an artifact. Each slot is filled by a token, and names and patterns differ only in what a
token is. The canonical text of an address gives the location in any case.

- `IsAddress` is the grammar, over a class of tokens
- `isAddress_iff` identifies it with the spellings of resources
- `reading_accepts_addresses` says that reading accepts the grammar, for names and for patterns
-/

namespace ScoringRules

/-- A token of a pattern: an identifier, the wildcard, or a reference to a level. -/
def IsSegmentToken (word : String) : Prop :=
  IsIdentifier word ∨ word = "-" ∨
    ∃ level ∈ ["api", "version", "spec", "artifact"], word = "$resource." ++ level

section Grammar

variable (IsToken : String → Prop)

/-- The word for a spec or a deployment, with or without a revision. -/
inductive IsRevisedWord : String → Prop
  | plain {token : String} (valid : IsToken token) : IsRevisedWord token
  | revised {token revision : String} (valid : IsToken token) (validRevision : IsToken revision) :
      IsRevisedWord (token ++ "@" ++ revision)

/-- The part of an address that leads from the project down to a node. -/
inductive IsBranch : String → Prop
  | project : IsBranch ""
  | api {api : String} (validApi : IsToken api) : IsBranch ("/apis/" ++ api)
  | version {api version : String} (validApi : IsToken api) (validVersion : IsToken version) :
      IsBranch ("/apis/" ++ api ++ "/versions/" ++ version)
  | spec {api version spec : String} (validApi : IsToken api) (validVersion : IsToken version)
      (validSpec : IsRevisedWord IsToken spec) :
      IsBranch ("/apis/" ++ api ++ "/versions/" ++ version ++ "/specs/" ++ spec)
  | deployment {api deployment : String} (validApi : IsToken api)
      (validDeployment : IsRevisedWord IsToken deployment) :
      IsBranch ("/apis/" ++ api ++ "/deployments/" ++ deployment)

/-- The end of an address, after its node. -/
inductive IsEnding : String → Prop
  | node : IsEnding ""
  | artifact {artifact : String} (valid : IsToken artifact) : IsEnding ("/artifacts/" ++ artifact)

/-- Whether a text is an address, and what its canonical text is: the text itself when it gives the
location, and otherwise the text with the location put in after the project. -/
inductive IsAddress : (text canonical : String) → Prop
  | located {project branch ending : String} (validProject : IsToken project)
      (validBranch : IsBranch IsToken branch) (validEnding : IsEnding IsToken ending) :
      IsAddress ("projects/" ++ project ++ "/locations/global" ++ branch ++ ending)
        ("projects/" ++ project ++ "/locations/global" ++ branch ++ ending)
  | unlocated {project branch ending : String} (validProject : IsToken project)
      (validBranch : IsBranch IsToken branch) (validEnding : IsEnding IsToken ending) :
      IsAddress ("projects/" ++ project ++ branch ++ ending)
        ("projects/" ++ project ++ "/locations/global" ++ branch ++ ending)

end Grammar

section Spelling

/-- The text that leads up to the word of a further step. -/
def Collection.lead (collection : Collection) : String := "/" ++ collection.keyword ++ "/"

/-- The text that further steps add to an address. -/
def stepsText : List (Collection × String) → String
  | [] => ""
  | (collection, word) :: later => collection.lead ++ word ++ stepsText later

/-- Steps are written one after the other. -/
theorem stepsText_append (steps later : List (Collection × String)) :
    stepsText (steps ++ later) = stepsText steps ++ stepsText later := by
  induction steps with
  | nil => rw [List.nil_append, stepsText, String.empty_append]
  | cons step steps ih =>
      rw [List.cons_append, stepsText, stepsText, ih]
      simp only [String.append_assoc]

/-- A step comes to two words, its keyword and its identifier. -/
theorem words_of_steps_cons (step : Collection × String) (steps : List (Collection × String)) :
    ((step :: steps).flatMap fun step => stepWords (spelledStep step)) =
      step.1.keyword :: step.2 :: steps.flatMap fun step => stepWords (spelledStep step) :=
  rfl

/-- What follows a word are the texts of the steps that follow it. -/
theorem intercalate_steps (word : String) (steps : List (Collection × String)) :
    "/".intercalate (word :: steps.flatMap fun step => stepWords (spelledStep step)) =
      word ++ stepsText steps := by
  induction steps generalizing word with
  | nil => rw [List.flatMap_nil, String.intercalate_singleton, stepsText, String.append_empty]
  | cons step steps ih =>
      rw [words_of_steps_cons, String.intercalate_cons_cons, String.intercalate_cons_cons, ih,
        stepsText, Collection.lead]
      simp only [String.append_assoc]

variable {S : Type} [Slot S]

/-- The text of an address between its project and its artifact. -/
def Node.branchText : Node S → String
  | project _ => ""
  | api _ a => "/apis/" ++ Slot.text a
  | version _ a v => "/apis/" ++ Slot.text a ++ "/versions/" ++ Slot.text v
  | spec _ a v s r =>
      "/apis/" ++ Slot.text a ++ "/versions/" ++ Slot.text v ++ "/specs/" ++ revisedText s r
  | deployment _ a d r => "/apis/" ++ Slot.text a ++ "/deployments/" ++ revisedText d r

/-- The text of an address after its node. -/
def endingText : Option S → String
  | none => ""
  | some artifact => "/artifacts/" ++ Slot.text artifact

/-- The steps below a project are written as the branch of the address. -/
theorem stepsText_stepsBelow (node : Node S) : stepsText node.stepsBelow = node.branchText := by
  cases node with
  | project => rfl
  | api | version | spec | deployment =>
      simp only [Node.stepsBelow, stepsText, Node.branchText, String.append_empty,
        String.append_assoc]
      rfl

/-- The text of an address, from the left. -/
theorem Resource.spelled_eq (resource : Resource S) (located : Bool) :
    resource.spelled located =
      "projects/" ++ Slot.text resource.node.projectSlot ++
        (if located then "/locations/global" else "") ++ resource.node.branchText ++
        endingText resource.artifact? := by
  have project : Collection.projects.keyword ++ "/" = "projects/" := rfl
  have location : stepsText (if located then [(.locations, globalLocation)] else []) =
      if located then "/locations/global" else "" := by
    cases located <;> rfl
  have ending : stepsText (resource.artifact?.map fun artifact =>
      (Collection.artifacts, Slot.text artifact)).toList = endingText resource.artifact? := by
    cases resource.artifact? with
    | none => rfl
    | some artifact => exact String.append_empty
  rw [spelled, spelling, words_of_steps_cons, String.intercalate_cons_cons, intercalate_steps,
    stepsText_append, location, project, stepsBelow, stepsText_append, stepsText_stepsBelow, ending]
  simp only [String.append_assoc]

end Spelling

section Acceptance

variable {S : Type} [Slot S] {IsToken : String → Prop}
  (tokens : ∀ word, IsToken word ↔ ∃ slot : S, Slot.text slot = word)

include tokens

/-- The revised words are the texts of slots with or without a revision. -/
theorem isRevisedWord_iff {word : String} :
    IsRevisedWord IsToken word ↔
      ∃ (slot : S) (revision : Option S), revisedText slot revision = word := by
  constructor
  · intro valid
    cases valid with
    | plain valid =>
        obtain ⟨slot, rfl⟩ := (tokens _).mp valid
        exact ⟨slot, none, rfl⟩
    | revised valid validRevision =>
        obtain ⟨slot, rfl⟩ := (tokens _).mp valid
        obtain ⟨revision, rfl⟩ := (tokens _).mp validRevision
        exact ⟨slot, some revision, rfl⟩
  · intro written
    obtain ⟨slot, revision, rfl⟩ := written
    have valid : IsToken (Slot.text slot) := (tokens _).mpr ⟨slot, rfl⟩
    cases revision with
    | none => exact .plain valid
    | some revision => exact .revised valid ((tokens _).mpr ⟨revision, rfl⟩)

/-- Whatever the project is, a branch is the text that leads down to some node. -/
theorem isBranch_iff (project : S) {branch : String} :
    IsBranch IsToken branch ↔
      ∃ node : Node S, node.projectSlot = project ∧ node.branchText = branch := by
  constructor
  · intro valid
    cases valid with
    | project => exact ⟨.project project, rfl, rfl⟩
    | api validApi =>
        obtain ⟨api, rfl⟩ := (tokens _).mp validApi
        exact ⟨.api project api, rfl, rfl⟩
    | version validApi validVersion =>
        obtain ⟨api, rfl⟩ := (tokens _).mp validApi
        obtain ⟨version, rfl⟩ := (tokens _).mp validVersion
        exact ⟨.version project api version, rfl, rfl⟩
    | spec validApi validVersion validSpec =>
        obtain ⟨api, rfl⟩ := (tokens _).mp validApi
        obtain ⟨version, rfl⟩ := (tokens _).mp validVersion
        obtain ⟨spec, revision, rfl⟩ := (isRevisedWord_iff tokens).mp validSpec
        exact ⟨.spec project api version spec revision, rfl, rfl⟩
    | deployment validApi validDeployment =>
        obtain ⟨api, rfl⟩ := (tokens _).mp validApi
        obtain ⟨deployment, revision, rfl⟩ := (isRevisedWord_iff tokens).mp validDeployment
        exact ⟨.deployment project api deployment revision, rfl, rfl⟩
  · intro written
    obtain ⟨node, -, rfl⟩ := written
    have token (slot : S) : IsToken (Slot.text slot) := (tokens _).mpr ⟨slot, rfl⟩
    have revised (slot : S) (revision : Option S) :
        IsRevisedWord IsToken (revisedText slot revision) :=
      (isRevisedWord_iff tokens).mpr ⟨slot, revision, rfl⟩
    cases node with
    | project => exact .project
    | api _ api => exact .api (token api)
    | version _ api version => exact .version (token api) (token version)
    | spec _ api version spec revision =>
        exact .spec (token api) (token version) (revised spec revision)
    | deployment _ api deployment revision =>
        exact .deployment (token api) (revised deployment revision)

/-- The endings are the texts of artifacts, or nothing. -/
theorem isEnding_iff {ending : String} :
    IsEnding IsToken ending ↔ ∃ artifact? : Option S, endingText artifact? = ending := by
  constructor
  · intro valid
    cases valid with
    | node => exact ⟨none, rfl⟩
    | artifact valid =>
        obtain ⟨artifact, rfl⟩ := (tokens _).mp valid
        exact ⟨some artifact, rfl⟩
  · intro written
    obtain ⟨artifact?, rfl⟩ := written
    cases artifact? with
    | none => exact .node
    | some artifact => exact .artifact ((tokens _).mpr ⟨artifact, rfl⟩)

/-- The parts of an address are those of some resource. -/
theorem exists_resource {project branch ending : String} (validProject : IsToken project)
    (validBranch : IsBranch IsToken branch) (validEnding : IsEnding IsToken ending) :
    ∃ resource : Resource S, Slot.text resource.node.projectSlot = project ∧
      resource.node.branchText = branch ∧ endingText resource.artifact? = ending := by
  obtain ⟨slot, written⟩ := (tokens project).mp validProject
  obtain ⟨node, projectSlot, branchText⟩ := (isBranch_iff tokens slot).mp validBranch
  obtain ⟨artifact?, endingText⟩ := (isEnding_iff tokens).mp validEnding
  exact ⟨⟨node, artifact?⟩, projectSlot ▸ written, branchText, endingText⟩

/-- The addresses are the spellings of resources, each with the canonical text of its resource. -/
theorem isAddress_iff {text canonical : String} :
    IsAddress IsToken text canonical ↔
      ∃ resource : Resource S, (∃ located, text = resource.spelled located) ∧
        resource.text = canonical := by
  constructor
  · intro address
    cases address with
    | located validProject validBranch validEnding =>
        obtain ⟨resource, rfl, rfl, rfl⟩ :=
          exists_resource tokens validProject validBranch validEnding
        have spelled := resource.spelled_eq true
        exact ⟨resource, ⟨true, spelled.symm⟩, resource.spelled_true ▸ spelled⟩
    | @unlocated project branch ending validProject validBranch validEnding =>
        obtain ⟨resource, rfl, rfl, rfl⟩ :=
          exists_resource tokens validProject validBranch validEnding
        have short := resource.spelled_eq false
        have full := resource.spelled_eq true
        simp only [Bool.false_eq_true, ↓reduceIte, String.append_empty] at short full
        exact ⟨resource, ⟨false, short.symm⟩, resource.spelled_true ▸ full⟩
  · intro spelled
    obtain ⟨resource, ⟨located, rfl⟩, rfl⟩ := spelled
    have validProject : IsToken (Slot.text resource.node.projectSlot) := (tokens _).mpr ⟨_, rfl⟩
    have validBranch : IsBranch IsToken resource.node.branchText :=
      (isBranch_iff tokens resource.node.projectSlot).mpr ⟨_, rfl, rfl⟩
    have validEnding : IsEnding IsToken (endingText resource.artifact?) :=
      (isEnding_iff tokens).mpr ⟨_, rfl⟩
    rw [← resource.spelled_true, resource.spelled_eq, resource.spelled_eq]
    cases located with
    | true => exact .located validProject validBranch validEnding
    | false =>
        simp only [Bool.false_eq_true, ↓reduceIte, String.append_empty]
        exact .unlocated validProject validBranch validEnding

end Acceptance

/-- The identifiers are the texts of the slots of names. -/
theorem isIdentifier_iff (word : String) :
    IsIdentifier word ↔ ∃ identifier : Identifier, Slot.text identifier = word := by
  constructor
  · exact fun valid => ⟨⟨word, valid⟩, rfl⟩
  · intro written
    obtain ⟨identifier, rfl⟩ := written
    exact identifier.valid

/-- The segment tokens are the texts of the slots of patterns. -/
theorem isSegmentToken_iff (word : String) :
    IsSegmentToken word ↔ ∃ segment : Segment, Slot.text segment = word := by
  constructor
  · intro valid
    rcases valid with valid | rfl | ⟨label, member, rfl⟩
    · exact ⟨.literal ⟨word, valid⟩, rfl⟩
    · exact ⟨.wildcard, rfl⟩
    · have labels : ["api", "version", "spec", "artifact"] = Level.all.map Level.label := rfl
      rw [labels] at member
      obtain ⟨level, -, rfl⟩ := List.mem_map.mp member
      exact ⟨.reference level, rfl⟩
  · intro written
    obtain ⟨segment, rfl⟩ := written
    cases segment with
    | literal identifier => exact Or.inl identifier.valid
    | wildcard => exact Or.inr (Or.inl rfl)
    | reference level =>
        have member : level.label ∈ Level.all.map Level.label :=
          List.mem_map.mpr ⟨level, by cases level <;> decide, rfl⟩
        exact Or.inr (Or.inr ⟨level.label, member, rfl⟩)

section Reading

variable {S : Type} [Slot S] [LawfulSlot S]

/-- A text has words, and once they are read, something has been addressed. -/
theorem reached_ne_nothing {text : String} {steps : List (String × String)}
    {progress : Progress S} (paired : pairUp (Text.words '/' text) = some steps)
    (run : steps.foldlM Progress.advance Progress.nothing = .ok progress) :
    progress ≠ .nothing := by
  intro nothing
  subst nothing
  obtain ⟨later, rfl, spelled⟩ := Progress.spelling_of_run run
  obtain rfl : later = [] := (List.nil_append later).symm.trans spelled.symm
  have words : Text.words '/' text = [] := pairUp_eq_some_iff.mp paired
  exact List.cons_ne_nil _ _ words

/-- Whether reading accepts a text just when it is an address over a class of tokens, as a resource
with the canonical text of that address. A text whose steps can all be read is accepted: that they
address nothing does not occur. -/
structure ReadsAddresses (S : Type) [Slot S] (IsToken : String → Prop) (text : String) : Prop where
  accepts : ∀ canonical,
    (∃ resource : Resource S, Resource.parse text = .ok resource ∧ resource.text = canonical) ↔
      IsAddress IsToken text canonical
  complete : ¬ ∃ steps, pairUp (Text.words '/' text) = some steps ∧
    steps.foldlM Progress.advance (Progress.nothing : Progress S) = .ok .nothing

/-- Addresses are read by the grammar when the tokens are the texts of slots. -/
theorem ReadsAddresses.of_tokens {IsToken : String → Prop}
    (tokens : ∀ word, IsToken word ↔ ∃ slot : S, Slot.text slot = word) (text : String) :
    ReadsAddresses S IsToken text where
  accepts canonical := by
    rw [isAddress_iff tokens]
    simp only [Resource.parse_eq_ok_iff]
  complete := by
    intro unread
    obtain ⟨steps, paired, run⟩ := unread
    exact reached_ne_nothing paired run rfl

end Reading

/-- **Reading accepts the grammar.** Every text is accepted as a name just when it is an address
over the identifiers, and as a pattern just when it is an address over the tokens of segments. -/
theorem reading_accepts_addresses (text : String) :
    ReadsAddresses Identifier IsIdentifier text ∧ ReadsAddresses Segment IsSegmentToken text :=
  ⟨.of_tokens isIdentifier_iff text, .of_tokens isSegmentToken_iff text⟩

example : (Pattern.parse "projects/demo/apis/-/artifacts/lint").toOption.map Resource.text =
    some "projects/demo/locations/global/apis/-/artifacts/lint" := by
  decide +kernel

end ScoringRules
