import ScoringRules.Proofs.Resource.Slot

/-!
# Spelling and reading addresses

An address is spelled in two ways, with its location and without it, and reading accepts exactly
these spellings. What has been read so far determines the steps that were read, which is the
invariant behind one direction; the other direction reads each spelling step by step.

- `Resource.spelling` lists the steps of an address
- `Progress.spelling_of_extend` and `Progress.spelling_of_run` are the invariant, for a step and for
  a run
- `Resource.parse_eq_ok_iff` says which texts are read as a resource
- `Resource.run_on_of_parse_append` reads on from a text, `Resource.run_of_parse_append` and
  `Resource.text_of_run` from a canonical one
-/

namespace ScoringRules

variable {S : Type} [Slot S]

/-- A step with its collection as a keyword. -/
def spelledStep (step : Collection × String) : String × String := (step.1.keyword, step.2)

/-- The two words of a step. -/
def stepWords (step : String × String) : List String := [step.1, step.2]

/-- The steps of a node below its project. -/
@[simp]
def Node.stepsBelow : Node S → List (Collection × String)
  | project _ => []
  | api _ a => [(.apis, Slot.text a)]
  | version _ a v => [(.apis, Slot.text a), (.versions, Slot.text v)]
  | spec _ a v s r => [(.apis, Slot.text a), (.versions, Slot.text v), (.specs, revisedText s r)]
  | deployment _ a d r => [(.apis, Slot.text a), (.deployments, revisedText d r)]

namespace Resource

/-- The steps of an address below its project. -/
@[simp]
def stepsBelow (resource : Resource S) : List (Collection × String) :=
  resource.node.stepsBelow ++
    (resource.artifact?.map fun artifact => (Collection.artifacts, Slot.text artifact)).toList

/-- The steps of an address, with or without the location. -/
@[simp]
def spelling (located : Bool) (resource : Resource S) : List (Collection × String) :=
  (.projects, Slot.text resource.node.projectSlot) ::
    ((if located then [(.locations, globalLocation)] else []) ++ resource.stepsBelow)

/-- The text of an address, with or without the location. -/
def spelled (located : Bool) (resource : Resource S) : String :=
  "/".intercalate ((resource.spelling located).flatMap fun step => stepWords (spelledStep step))

/-- Spelled with its location, an address has its own steps. -/
theorem spelling_true (resource : Resource S) : resource.spelling true = resource.steps := by
  obtain ⟨node, artifact⟩ := resource
  cases node <;> cases artifact <;> rfl

/-- Spelled with its location, an address has its own text. -/
theorem spelled_true (resource : Resource S) : resource.spelled true = resource.text := by
  rw [spelled, spelling_true, text]
  rfl

/-- Canonical texts start with the keyword of a project. -/
theorem text_starts (resource : Resource S) : ∃ later, resource.text.toList = 'p' :: later := by
  rw [← spelled_true, spelled, spelling, List.flatMap_cons]
  change ∃ later,
    ("/".intercalate ("projects" :: Slot.text resource.node.projectSlot :: _)).toList =
    'p' :: later
  rw [String.intercalate_cons_cons, Text.toList_append_slash]
  exact ⟨_, rfl⟩

/-- Whether the location is given can be told from any initial part of the steps that reaches it. -/
theorem located_of_spelling_eq {located : Bool} {resource initial : Resource S}
    {later : List (Collection × String)}
    (split : resource.spelling located = initial.spelling true ++ later) : located = true := by
  cases located with
  | true => rfl
  | false =>
      obtain ⟨node, artifact⟩ := resource
      cases node <;> cases artifact <;> simp at split

end Resource

namespace Progress

/-- The steps that have been read. -/
@[simp]
def spelling : Progress S → List (Collection × String)
  | nothing => []
  | upTo resource located => resource.spelling located

/-- Below a project, an API is read. -/
theorem extend_apis (project : S) (located : Bool) (word : String) :
    extend (upTo { node := .project project } located) .apis word =
      (do return upTo { node := .api project (← readSlot word) } located) := by
  cases located <;> rfl

/-- Below any node, an artifact is read. -/
theorem extend_artifacts (node : Node S) (located : Bool) (word : String) :
    extend (upTo { node } located) .artifacts word =
      (do return upTo { node, artifact? := some (← readSlot word) } located) := by
  cases node <;> cases located <;> rfl

variable [LawfulSlot S]

section Reading

variable {progress next : Progress S}

/-- Reading a step adds it to the steps that have been read. -/
theorem spelling_of_extend {collection : Collection} {word : String}
    (accepted : progress.extend collection word = .ok next) :
    next.spelling = progress.spelling ++ [(collection, word)] := by
  unfold extend at accepted
  split at accepted
  · obtain ⟨_, read, ⟨⟩⟩ := bind_eq_ok_iff.mp accepted
    simp [readSlot_eq_ok_iff.mp read, Node.projectSlot]
  · split at accepted
    · next global =>
        cases accepted
        simp [global, Node.projectSlot]
    · cases accepted
  · obtain ⟨_, read, ⟨⟩⟩ := bind_eq_ok_iff.mp accepted
    simp [readSlot_eq_ok_iff.mp read, Node.projectSlot]
  · obtain ⟨_, read, ⟨⟩⟩ := bind_eq_ok_iff.mp accepted
    simp [readSlot_eq_ok_iff.mp read, Node.projectSlot]
  · obtain ⟨⟨_, _⟩, read, ⟨⟩⟩ := bind_eq_ok_iff.mp accepted
    simp [readRevised_eq_ok_iff.mp read, Node.projectSlot]
  · obtain ⟨⟨_, _⟩, read, ⟨⟩⟩ := bind_eq_ok_iff.mp accepted
    simp [readRevised_eq_ok_iff.mp read, Node.projectSlot]
  · obtain ⟨_, read, ⟨⟩⟩ := bind_eq_ok_iff.mp accepted
    simp [readSlot_eq_ok_iff.mp read]
  · cases accepted

omit [LawfulSlot S] in
/-- A step is read when its first word is a keyword whose collection has its place there. -/
theorem advance_eq_ok_iff {step : String × String} :
    progress.advance step = .ok next ↔
      ∃ collection, step.1 = Collection.keyword collection ∧
        progress.extend collection step.2 = .ok next := by
  unfold advance
  cases found : Collection.ofKeyword? step.1 with
  | none =>
      apply iff_of_false nofun
      intro placed
      obtain ⟨collection, keyword, -⟩ := placed
      rw [Collection.ofKeyword?_eq_some_iff.mpr keyword] at found
      cases found
  | some collection =>
      rw [Collection.ofKeyword?_eq_some_iff] at found
      constructor
      · exact fun accepted => ⟨collection, found, accepted⟩
      · intro placed
        obtain ⟨other, keyword, accepted⟩ := placed
        have same : some other = some collection := by
          rw [← Collection.ofKeyword?_eq_some_iff.mpr keyword,
            Collection.ofKeyword?_eq_some_iff.mpr found]
        cases same
        exact accepted

omit [LawfulSlot S] in
/-- A run keeps what each of its steps keeps. -/
theorem run_keeps (Kept : Progress S → Prop)
    (step : ∀ {progress next : Progress S} {collection : Collection} {word : String},
      Kept progress → progress.extend collection word = .ok next → Kept next)
    {steps : List (String × String)} (accepted : steps.foldlM advance progress = .ok next)
    (start : Kept progress) : Kept next := by
  induction steps generalizing progress with
  | nil =>
      cases accepted
      exact start
  | cons first steps ih =>
      rw [List.foldlM_cons] at accepted
      obtain ⟨middle, advanced, rest⟩ := bind_eq_ok_iff.mp accepted
      obtain ⟨collection, -, extended⟩ := advance_eq_ok_iff.mp advanced
      exact ih rest (step start extended)

omit [LawfulSlot S] in
/-- Advancing by a step that is spelled extends what has been read. -/
theorem advance_spelledStep (progress : Progress S) (step : Collection × String) :
    progress.advance (spelledStep step) = progress.extend step.1 step.2 := by
  have found : Collection.ofKeyword? (spelledStep step).1 = some step.1 :=
    Collection.ofKeyword?_eq_some_iff.mpr rfl
  rw [advance, found]
  rfl

/-- Reading steps adds them to the steps that have been read. -/
theorem spelling_of_run {steps : List (String × String)}
    (accepted : steps.foldlM advance progress = .ok next) :
    ∃ later, steps = later.map spelledStep ∧ next.spelling = progress.spelling ++ later := by
  induction steps generalizing progress with
  | nil =>
      cases accepted
      exact ⟨[], rfl, (List.append_nil _).symm⟩
  | cons step steps ih =>
      rw [List.foldlM_cons] at accepted
      obtain ⟨middle, first, rest⟩ := bind_eq_ok_iff.mp accepted
      obtain ⟨collection, keyword, extended⟩ := advance_eq_ok_iff.mp first
      obtain ⟨later, rfl, spelled⟩ := ih rest
      refine ⟨(collection, step.2) :: later, ?_, ?_⟩
      · rw [List.map_cons, spelledStep, ← keyword]
      · rw [spelled, spelling_of_extend extended, List.append_assoc, List.singleton_append]

/-- The steps of an address are read up to its resource. -/
theorem run_spelling (resource : Resource S) (located : Bool) :
    ((resource.spelling located).map spelledStep).foldlM advance nothing =
      .ok (upTo resource located) := by
  obtain ⟨node, artifact⟩ := resource
  cases node <;> cases artifact <;> cases located <;>
    simp [advance_spelledStep, extend, Node.projectSlot, bind, Except.bind, pure, Except.pure]

end Reading

end Progress

section Pairing

/-- The words of steps are paired up into the steps again. -/
theorem pairUp_append (steps : List (String × String)) (words : List String) :
    pairUp (steps.flatMap stepWords ++ words) = (pairUp words).map (steps ++ ·) := by
  induction steps with
  | nil => simp only [List.flatMap_nil, List.nil_append, Option.map_id']
  | cons step steps ih =>
      rw [List.flatMap_cons, List.append_assoc]
      change (pairUp (steps.flatMap stepWords ++ words)).map (step :: ·) = _
      rw [ih, Option.map_map]
      rfl

/-- Words pair up to the steps that they are the words of. -/
theorem pairUp_eq_some_iff {words : List String} {steps : List (String × String)} :
    pairUp words = some steps ↔ words = steps.flatMap stepWords := by
  constructor
  · intro paired
    fun_induction pairUp words generalizing steps with
    | case1 =>
        cases paired
        rfl
    | case2 => cases paired
    | case3 collection word later ih =>
        obtain ⟨rest, found, rfl⟩ := Option.map_eq_some_iff.mp paired
        rw [ih found]
        rfl
  · rintro rfl
    have paired := pairUp_append steps []
    rwa [List.append_nil, pairUp, Option.map_some, List.append_nil] at paired

end Pairing

namespace Resource

omit [Slot S] in
/-- The words of steps are those of the steps as they are spelled. -/
private theorem flatMap_spelledStep (steps : List (Collection × String)) :
    (steps.flatMap fun step => stepWords (spelledStep step)) =
      (steps.map spelledStep).flatMap stepWords := by
  rw [List.flatMap_map]

section Running

variable {resource longer : Resource S} {text later : String}

/-- Words are read by running through the steps that they pair up to. -/
theorem readWords_eq_ok_iff_run {words : List String} :
    readWords words = .ok resource ↔
      ∃ (steps : List (String × String)) (located : Bool), words = steps.flatMap stepWords ∧
        steps.foldlM Progress.advance Progress.nothing = .ok (.upTo resource located) := by
  unfold readWords
  constructor
  · intro accepted
    split at accepted
    · cases accepted
    · next steps paired =>
        obtain ⟨progress, run, finished⟩ := bind_eq_ok_iff.mp accepted
        cases progress with
        | nothing => cases finished
        | upTo reached located =>
            cases finished
            exact ⟨steps, located, pairUp_eq_some_iff.mp paired, run⟩
  · intro read
    obtain ⟨steps, located, rfl, run⟩ := read
    rw [pairUp_eq_some_iff.mpr rfl]
    exact bind_eq_ok_iff.mpr ⟨_, run, rfl⟩

/-- A text is read when its words are. -/
theorem parse_eq_ok_iff_readWords :
    Resource.parse text = .ok resource ↔ readWords (Text.words '/' text) = .ok resource := by
  unfold Resource.parse
  split
  · next empty =>
      subst empty
      exact iff_of_false nofun nofun
  · exact mapError_eq_ok_iff

/-- A text is read when its words are steps that lead to the address. -/
theorem parse_eq_ok_iff_run :
    Resource.parse text = .ok resource ↔
      ∃ (steps : List (String × String)) (located : Bool),
        Text.words '/' text = steps.flatMap stepWords ∧
          steps.foldlM Progress.advance Progress.nothing = .ok (.upTo resource located) := by
  rw [parse_eq_ok_iff_readWords, readWords_eq_ok_iff_run]

/-- To read a text that goes on from another one is to run on from where that one has led. -/
theorem run_on_of_parse_append {first : List (String × String)} {located : Bool}
    (read : Text.words '/' text = first.flatMap stepWords)
    (run : first.foldlM Progress.advance Progress.nothing = .ok (.upTo resource located))
    (accepted : Resource.parse (text ++ "/" ++ later) = .ok longer) :
    ∃ (steps : List (String × String)) (reached : Bool),
      Text.words '/' later = steps.flatMap stepWords ∧
        steps.foldlM Progress.advance (.upTo resource located) = .ok (.upTo longer reached) := by
  obtain ⟨all, reached, readAll, runAll⟩ := parse_eq_ok_iff_run.mp accepted
  rw [Text.words_append_slash, read, ← pairUp_eq_some_iff, pairUp_append] at readAll
  obtain ⟨steps, paired, rfl⟩ := Option.map_eq_some_iff.mp readAll
  rw [List.foldlM_append, run] at runAll
  exact ⟨steps, reached, pairUp_eq_some_iff.mp paired, runAll⟩

end Running

variable [LawfulSlot S]

/-- The words that are read as an address are those of its spellings. -/
theorem readWords_eq_ok_iff {words : List String} {resource : Resource S} :
    readWords words = .ok resource ↔
      ∃ located, words =
        (resource.spelling located).flatMap fun step => stepWords (spelledStep step) := by
  rw [readWords_eq_ok_iff_run]
  constructor
  · intro read
    obtain ⟨steps, located, rfl, run⟩ := read
    obtain ⟨later, rfl, spelled⟩ := Progress.spelling_of_run run
    refine ⟨located, ?_⟩
    rw [flatMap_spelledStep]
    exact congrArg (fun steps => (List.map spelledStep steps).flatMap stepWords) spelled.symm
  · intro written
    obtain ⟨located, rfl⟩ := written
    exact ⟨_, located, flatMap_spelledStep _, Progress.run_spelling resource located⟩

omit [LawfulSlot S] in
/-- A character that is in no slot is in no step, unless it is a letter or the mark of a
revision. -/
theorem not_mem_spelling {c : Char} {resource : Resource S} (symbol : ¬ c.isAlpha)
    (unmarked : c ≠ revisionMark) (free : ∀ slot ∈ resource.slots, c ∉ (Slot.text slot).toList)
    (located : Bool) : ∀ step ∈ resource.spelling located, c ∉ step.2.toList := by
  have letters : globalLocation.toList.all Char.isAlpha := by decide
  have global : c ∉ globalLocation.toList :=
    fun member => symbol (List.all_eq_true.mp letters c member)
  obtain ⟨node, artifact⟩ := resource
  cases node <;> cases artifact <;> cases located <;>
    simp_all [slots, Node.slots, Node.projectSlot, not_mem_revisedText]

omit [LawfulSlot S] in
/-- A character that is in no slot is in no word, unless it is a letter or the mark of a
revision. -/
theorem not_mem_words {c : Char} {resource : Resource S} (symbol : ¬ c.isAlpha)
    (unmarked : c ≠ revisionMark) (free : ∀ slot ∈ resource.slots, c ∉ (Slot.text slot).toList)
    (located : Bool) :
    ∀ word ∈ (resource.spelling located).flatMap fun step => stepWords (spelledStep step),
      c ∉ word.toList := by
  have letters (collection : Collection) : collection.keyword.toList.all Char.isAlpha := by
    cases collection <;> decide
  intro word member
  obtain ⟨step, spelled, member⟩ := List.mem_flatMap.mp member
  simp only [stepWords, spelledStep, List.mem_cons, List.not_mem_nil, or_false] at member
  rcases member with rfl | rfl
  · exact fun member => symbol (List.all_eq_true.mp (letters step.1) c member)
  · exact not_mem_spelling symbol unmarked free located step spelled

/-- No word of a spelling has a slash. -/
theorem slash_not_mem_words (resource : Resource S) (located : Bool) :
    ∀ word ∈ (resource.spelling located).flatMap fun step => stepWords (spelledStep step),
      '/' ∉ word.toList :=
  not_mem_words (by decide) (by decide) (fun slot _ => LawfulSlot.slash_not_mem slot) located

/-- A text has the words of a spelling when it is that spelling. -/
theorem words_eq_iff {text : String} {resource : Resource S} {located : Bool} :
    Text.words '/' text =
        ((resource.spelling located).flatMap fun step => stepWords (spelledStep step)) ↔
      text = resource.spelled located :=
  Text.words_eq_iff (List.cons_ne_nil _ _) (slash_not_mem_words resource located)

/-- Reading accepts exactly the two spellings of a resource. -/
theorem parse_eq_ok_iff {text : String} {resource : Resource S} :
    Resource.parse text = .ok resource ↔ ∃ located, text = resource.spelled located := by
  rw [parse_eq_ok_iff_readWords, readWords_eq_ok_iff]
  exact exists_congr fun located => words_eq_iff

/-- An address is read back from its text. -/
@[simp]
theorem parse_text (resource : Resource S) : Resource.parse resource.text = .ok resource :=
  parse_eq_ok_iff.mpr ⟨true, (spelled_true resource).symm⟩

section ReadingOn

variable {resource longer : Resource S} {later : String}

/-- The words of the text of an address are those of its steps. -/
theorem words_text (resource : Resource S) :
    Text.words '/' resource.text =
      ((resource.spelling true).map spelledStep).flatMap stepWords := by
  rw [words_eq_iff.mpr (spelled_true resource).symm, flatMap_spelledStep]

/-- To read an address that goes on from a canonical text is to read further steps. -/
theorem run_of_parse_append
    (accepted : Resource.parse (resource.text ++ "/" ++ later) = .ok longer) :
    ∃ (steps : List (String × String)) (located : Bool),
      Text.words '/' later = steps.flatMap stepWords ∧
        steps.foldlM Progress.advance (.upTo resource true) = .ok (.upTo longer located) :=
  run_on_of_parse_append (words_text resource) (Progress.run_spelling resource true) accepted

/-- What is reached from a canonical text by further steps has the canonical text that goes on with
them. -/
theorem text_of_run {steps : List (String × String)} {located : Bool}
    (read : Text.words '/' later = steps.flatMap stepWords)
    (run : steps.foldlM Progress.advance (.upTo resource true) = .ok (.upTo longer located)) :
    longer.text = resource.text ++ "/" ++ later := by
  obtain ⟨further, rfl, spelled⟩ := Progress.spelling_of_run run
  obtain rfl : located = true := located_of_spelling_eq spelled
  have spelled : longer.spelling true = resource.spelling true ++ further := spelled
  rw [← spelled_true, eq_comm, ← words_eq_iff, Text.words_append_slash, words_text, read,
    ← List.flatMap_append, ← List.map_append, ← spelled, flatMap_spelledStep]

/-- What is read from a text that goes on from a canonical one has that text for its own. -/
theorem text_of_parse_append
    (accepted : Resource.parse (resource.text ++ "/" ++ later) = .ok longer) :
    longer.text = resource.text ++ "/" ++ later := by
  obtain ⟨steps, located, read, run⟩ := run_of_parse_append accepted
  exact text_of_run read run

end ReadingOn

/-- The text of an artifact goes on from that of its parent. -/
theorem text_artifact (node : Node S) (slot : S) :
    text { node, artifact? := some slot } =
      text { node } ++ "/" ++ ("artifacts" ++ "/" ++ Slot.text slot) := by
  have extended : (Progress.upTo { node } true).extend .artifacts (Slot.text slot) =
      .ok (.upTo { node, artifact? := some slot } true) := by
    rw [Progress.extend_artifacts, readSlot_text]
    rfl
  have run : [("artifacts", Slot.text slot)].foldlM Progress.advance (.upTo { node } true) =
      .ok (.upTo { node, artifact? := some slot } true) :=
    bind_eq_ok_iff.mpr ⟨_, Progress.advance_eq_ok_iff.mpr ⟨.artifacts, rfl, extended⟩, rfl⟩
  apply text_of_run _ run
  rw [Text.words_append_slash, Text.words_of_not_mem (LawfulSlot.slash_not_mem slot)]
  rfl

end Resource

end ScoringRules
