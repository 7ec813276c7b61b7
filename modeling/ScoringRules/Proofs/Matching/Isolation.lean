import ScoringRules.Proofs.Reference.Resolution

/-!
# Staying in a project

An address starts with its project, and whatever is written after an address leaves its start alone.
A parent that is a name therefore fixes the project of all that is read below it: of targets, of
what relative patterns stand for, and so of the names that are matched.

- `Resource.projectText_eq` compares two addresses of which one goes on from the other
- `projectSlot_of_rooted` and `Refers.projectText_eq` are the cases of a target and of a
  substitution
- `project_isolation` is what follows for matching and for accepted definitions
-/

namespace ScoringRules

section Projects

variable {S T : Type} [Slot S] [LawfulSlot S] [Slot T] [LawfulSlot T]

namespace Resource

/-- The words of an address start with its project. -/
theorem words_of_parse {text : String} {resource : Resource S}
    (read : Resource.parse text = .ok resource) :
    ∃ later, Text.words '/' text =
      "projects" :: Slot.text resource.node.projectSlot :: later := by
  obtain ⟨located, spelled⟩ := parse_eq_ok_iff.mp read
  exact ⟨_, words_eq_iff.mpr spelled⟩

/-- An address whose words go on from those of another one is in the same project, be they names or
patterns. -/
theorem projectText_eq {text longer : String} {resource : Resource S} {other : Resource T}
    (read : Resource.parse text = .ok resource) (readOn : Resource.parse longer = .ok other)
    (goesOn : Text.words '/' text <+: Text.words '/' longer) :
    Slot.text other.node.projectSlot = Slot.text resource.node.projectSlot := by
  obtain ⟨_, words⟩ := words_of_parse read
  obtain ⟨_, wordsOn⟩ := words_of_parse readOn
  rw [words, wordsOn, List.cons_prefix_cons, List.cons_prefix_cons] at goesOn
  exact goesOn.2.1.symm

end Resource

/-- Substitution puts the project of its target in front. -/
theorem Refers.projectText_eq {target : Resource S}
    {applied : Resource T} {pattern remainder text : String} {level : Level}
    (refers : Refers pattern level remainder) (substituted : substitute pattern target = .ok text)
    (read : Resource.parse text = .ok applied) :
    Slot.text applied.node.projectSlot = Slot.text target.node.projectSlot := by
  obtain ⟨ancestor, found, rfl⟩ := refers.substitute_eq_ok_iff.mp substituted
  have goesOn : Text.words '/' ancestor.text <+: Text.words '/' (ancestor.text ++ remainder) := by
    rcases refers.remainder_cases with rfl | ⟨later, rfl⟩
    · simp only [String.append_empty, List.prefix_rfl]
    · rw [← String.append_assoc, Text.words_append_slash]
      exact List.prefix_append _ _
  rw [Resource.projectText_eq (Resource.parse_text ancestor) read goesOn,
    Resource.projectSlot_of_mem_lineage (Resource.mem_lineage_of_ancestor? found)]

end Projects

section Isolation

variable {parent : String} {root : Name} {target : Pattern}

/-- A target that is read below a name has the project of the name as a literal. -/
theorem projectSlot_of_rooted {pattern : String} (rooted : Name.parse parent = .ok root)
    (read : Pattern.parse (parent ++ "/" ++ pattern) = .ok target) :
    target.node.projectSlot = .literal root.node.projectSlot := by
  have goesOn : Text.words '/' parent <+: Text.words '/' (parent ++ "/" ++ pattern) := by
    rw [Text.words_append_slash]
    exact List.prefix_append _ _
  exact LawfulSlot.text_injective (Resource.projectText_eq rooted read goesOn)

/-- The project is compared first, so a name in another project than the pattern's fails there. -/
theorem matchPattern_of_project_ne {project : Identifier} {name : Name}
    (literal : target.node.projectSlot = .literal project)
    (other : name.node.projectSlot ≠ project) :
    matchPattern target name =
      .error (.segmentMismatch .project (.literal project) (some name.node.projectSlot)
        target name) := by
  have fails : ¬ (projectComparison target name).Succeeds := by
    rw [projectComparison, Comparison.succeeds_iff, literal]
    intro same
    cases same
    exact other rfl
  rw [matchPattern, require, List.find?_cons_of_pos (by simpa only [decide_eq_true_eq] using fails),
    projectComparison, literal]
  rfl

/-- Below a name, a target rejects a name from another project: it is no pattern, or the project is
what is reported. -/
theorem matchTarget_of_project_ne {selector : Selector} {name : Name}
    (rooted : Name.parse parent = .ok root)
    (other : name.node.projectSlot ≠ root.node.projectSlot) :
    (∃ error, matchTarget selector name parent = .error (.badTarget error)) ∨
      ∃ target, matchTarget selector name parent =
        .error (.segmentMismatch .project (.literal root.node.projectSlot)
          (some name.node.projectSlot) target name) := by
  rw [matchTarget]
  cases read : Pattern.parse (parent ++ "/" ++ selector.pattern) with
  | error error => exact Or.inl ⟨error, rfl⟩
  | ok target =>
      exact Or.inr ⟨target, matchPattern_of_project_ne (projectSlot_of_rooted rooted read) other⟩

/-- A name that matches a target is in the project of the parent. -/
theorem projectSlot_of_matchTarget {selector : Selector} {name : Name}
    (rooted : Name.parse parent = .ok root) (matched : matchTarget selector name parent = .ok ()) :
    name.node.projectSlot = root.node.projectSlot := by
  by_contra other
  rcases matchTarget_of_project_ne rooted other with ⟨_, failed⟩ | ⟨_, failed⟩
  · exact nomatch matched.symm.trans failed
  · exact nomatch matched.symm.trans failed

/-- Whether a document stays in a project: its target is there, and so is what each of its patterns
stands for, relative to the target and relative to any name that the target matches. -/
structure StaysIn (project : Identifier) (parent : String) (selector : Selector)
    (patterns : List String) : Prop where
  target : ∃ target, parseTarget parent selector.pattern = .ok target ∧
    target.node.projectSlot = .literal project ∧
    ∀ pattern ∈ patterns, ∃ applied, applyToTarget target pattern = .ok applied ∧
      applied.node.projectSlot = .literal project
  names : ∀ name, matchTarget selector name parent = .ok () → ∀ pattern ∈ patterns,
    ∃ text applied, substitute pattern name = .ok text ∧ Pattern.parse text = .ok applied ∧
      applied.node.projectSlot = .literal project

/-- A target below a name and the patterns that are valid relative to it stay in the name's
project. -/
theorem StaysIn.of_valid {selector : Selector} {patterns : List String}
    (rooted : Name.parse parent = .ok root) (isTarget : IsTarget parent selector.pattern target)
    (valid : ∀ pattern ∈ patterns, ValidRelative target pattern) :
    StaysIn root.node.projectSlot parent selector patterns := by
  have literal := projectSlot_of_rooted rooted isTarget.parsed
  refine ⟨⟨target, parseTarget_eq_ok_iff.mpr isTarget, literal, ?_⟩, ?_⟩
  · intro pattern member
    obtain ⟨applied, applies⟩ := (valid pattern member).applies
    refine ⟨applied, applyToTarget_eq_ok_iff.mpr applies, ?_⟩
    obtain ⟨level, remainder, ancestor, refers, found, read, -⟩ := applies
    have substituted := refers.substitute_eq_ok_iff.mpr ⟨ancestor, found, rfl⟩
    rw [← literal]
    exact LawfulSlot.text_injective (refers.projectText_eq substituted read)
  · intro name matched pattern member
    obtain ⟨_, level, remainder, ancestor, refers, found, read, -⟩ := (valid pattern member).applies
    obtain ⟨_, applied, -, substituted, -, -⟩ := (isTarget.covers matched).narrow refers found read
    have reread : Pattern.parse applied.text = .ok applied := Resource.parse_text applied
    refine ⟨applied.text, applied, substituted, reread, ?_⟩
    rw [← projectSlot_of_matchTarget rooted matched]
    exact LawfulSlot.text_injective (refers.projectText_eq substituted reread)

/-- **Projects are isolated.** Below a name, targets match names in its project only; for any other
name the target is no pattern, or the project is what is reported. Whatever the limits are, accepted
score definitions and score cards stay in the project. -/
theorem project_isolation (rooted : Name.parse parent = .ok root) :
    (∀ (selector : Selector) (name : Name),
      (matchTarget selector name parent = .ok () →
        name.node.projectSlot = root.node.projectSlot) ∧
      (name.node.projectSlot ≠ root.node.projectSlot →
        (∃ error, matchTarget selector name parent = .error (.badTarget error)) ∨
          ∃ target, matchTarget selector name parent =
            .error (.segmentMismatch .project (.literal root.node.projectSlot)
              (some name.node.projectSlot) target name))) ∧
    ∀ limits : Limits,
      (∀ definition : ScoreDefinition, (definition.validate limits parent).errors = [] →
        StaysIn root.node.projectSlot parent definition.target
          (definition.components.map fun formula => formula.artifact.pattern)) ∧
      ∀ card : ScoreCard, (card.validate limits parent).errors = [] →
        StaysIn root.node.projectSlot parent card.target card.scorePatterns := by
  refine ⟨fun selector name => ⟨?matched, ?elsewhere⟩, fun limits => ⟨?definitions, ?cards⟩⟩
  case matched => exact projectSlot_of_matchTarget rooted
  case elsewhere => exact matchTarget_of_project_ne rooted
  case definitions =>
    intro definition accepted
    obtain ⟨target, isTarget, components⟩ := (ScoreDefinition.valid_of_accepted accepted).components
    apply StaysIn.of_valid rooted isTarget
    intro pattern member
    obtain ⟨formula, inside, rfl⟩ := List.mem_map.mp member
    exact (components formula inside).artifact
  case cards =>
    intro card accepted
    obtain ⟨target, isTarget, patterns⟩ := (ScoreCard.valid_of_accepted accepted).patterns
    exact .of_valid rooted isTarget patterns

end Isolation

/-- An API, as the parent that targets are relative to. -/
def animalsApi : Name where
  node := .api ⟨"zoo", by decide⟩ ⟨"animals", by decide⟩

def specRollup : ScoreDefinition where
  id := "spec-quality"
  target := { pattern := "versions/-/specs/-@-" }
  formula := some (.rollup
    { components :=
        [{ artifact := { pattern := "$resource.spec/artifacts/lint" }
           expression := "size(errors)" },
          { artifact := { pattern := "$resource.api/artifacts/style" }, expression := "score" }]
      expression := "lint + style" })
  type := some (.percent {})

def versionCard : ScoreCard where
  id := "version-quality"
  target := { pattern := "versions/-" }
  scorePatterns := ["$resource.version/artifacts/score-lint"]

def animalsVersion (project : Identifier) : Name where
  node := .version project ⟨"animals", by decide⟩ ⟨"v3", by decide⟩

/-- Below an API, the rollup and the card stay in its project. The target of the card matches a
version of the API, and rejects the version of the same name in another project. -/
theorem animals_rules_stay_in_project :
    Name.parse "projects/zoo/apis/animals" = .ok animalsApi ∧
      (matchTarget versionCard.target (animalsVersion ⟨"zoo", by decide⟩)
          "projects/zoo/apis/animals" = .ok () ∧
        (animalsVersion ⟨"farm", by decide⟩).node.projectSlot ≠ animalsApi.node.projectSlot ∧
        matchTarget versionCard.target (animalsVersion ⟨"farm", by decide⟩)
          "projects/zoo/apis/animals" ≠ .ok ()) ∧
      ((specRollup.validate .unbounded "projects/zoo/apis/animals").errors = [] ∧
        StaysIn animalsApi.node.projectSlot "projects/zoo/apis/animals" specRollup.target
          (specRollup.components.map fun formula => formula.artifact.pattern)) ∧
      (versionCard.validate .unbounded "projects/zoo/apis/animals").errors = [] ∧
        StaysIn animalsApi.node.projectSlot "projects/zoo/apis/animals" versionCard.target
          versionCard.scorePatterns := by
  have rooted : Name.parse "projects/zoo/apis/animals" = .ok animalsApi := by decide +kernel
  have matched : matchTarget versionCard.target (animalsVersion ⟨"zoo", by decide⟩)
      "projects/zoo/apis/animals" = .ok () := by decide +kernel
  have foreign :
      (animalsVersion ⟨"farm", by decide⟩).node.projectSlot ≠ animalsApi.node.projectSlot := by
    decide
  have rollup : (specRollup.validate .unbounded "projects/zoo/apis/animals").errors = [] := by
    decide +kernel
  have card : (versionCard.validate .unbounded "projects/zoo/apis/animals").errors = [] := by
    decide +kernel
  obtain ⟨matching, accepted⟩ := project_isolation rooted
  obtain ⟨definitions, cards⟩ := accepted .unbounded
  exact ⟨rooted, ⟨matched, foreign, fun same => foreign ((matching _ _).1 same)⟩,
    ⟨rollup, definitions specRollup rollup⟩, card, cards versionCard card⟩

end ScoringRules
