import Mathlib.Data.List.Sort
import ScoringRules.Proofs.Matching.Literal
import ScoringRules.Proofs.Matching.Outcome

/-!
# Selection

A resource splits a list of definitions in two: those that apply to it are chosen, and each of the
others leaves an event. Both are in order, and the positions show that nothing is lost or repeated.
As the definitions are decided one by one, a list is selected from part by part, and a target that
is no pattern leaves the other definitions as they are. The revision of the resource makes a
difference to the targets that name a revision.

- `Selection.IsSplit` tells a selection by its positions, and `isSplit_iff_eq_select` that there is
  no other
- `select_append` selects from two lists, `chosen_insert` and `log_insert` from a list with a broken
  target
- `matchTarget_withRevision_eq_ok_iff` compares a resource with itself at another revision
-/

namespace ScoringRules

section Numbered

variable {α : Type}

/-- Whether numbered entries are in the order of their numbers, with no number twice. -/
def InOrder (entries : List (α × Nat)) : Prop :=
  entries.Pairwise fun first second => first.2 < second.2

/-- Entries in order are told by what is among them. -/
theorem InOrder.eq_of_mem_iff {first second : List (α × Nat)} (ordered : InOrder first)
    (alsoOrdered : InOrder second)
    (same : ∀ entry position, (entry, position) ∈ first ↔ (entry, position) ∈ second) :
    first = second := by
  have irreflexive : Std.Irrefl fun first second : α × Nat => first.2 < second.2 :=
    ⟨fun _ => Nat.lt_irrefl _⟩
  have antisymmetric : Std.Antisymm fun first second : α × Nat => first.2 < second.2 :=
    ⟨fun _ _ before after => absurd after before.asymm⟩
  exact List.Pairwise.eq_of_mem_iff ordered alsoOrdered fun ⟨entry, position⟩ => same entry position

/-- The positions of a list are in order. -/
theorem inOrder_zipIdx (entries : List α) : InOrder entries.zipIdx := by
  apply List.pairwise_map.mp
  rw [List.zipIdx_map_snd]
  exact List.pairwise_lt_range' 1

/-- Numbered entries after some others, which shifts their numbers. -/
def behind (count : Nat) (entries : List (α × Nat)) : List (α × Nat) :=
  entries.map (Prod.map id (count + ·))

/-- Positions that are moved twice are moved by the sum. -/
theorem behind_behind (first second : Nat) (entries : List (α × Nat)) :
    behind first (behind second entries) = behind (first + second) entries := by
  rw [behind, behind, behind, List.map_map]
  congr 1
  funext entry
  simp only [Function.comp_apply, Prod.map, id, Nat.add_assoc]

/-- The position that an entry has once another one is put in at a place. -/
def movedFor (place position : Nat) : Nat := if position < place then position else position + 1

/-- The entries in front of the place stay where they are. -/
theorem map_movedFor_of_lt {place : Nat} {entries : List (α × Nat)}
    (inFront : ∀ entry position, (entry, position) ∈ entries → position < place) :
    entries.map (Prod.map id (movedFor place)) = entries := by
  refine (List.map_congr_left ?_).trans (List.map_id _)
  rintro ⟨entry, position⟩ member
  exact congrArg (Prod.mk entry) (if_pos (inFront entry position member))

/-- The entries behind it move up by one position. -/
theorem map_movedFor_behind (place : Nat) (entries : List (α × Nat)) :
    (behind place entries).map (Prod.map id (movedFor place)) = behind (place + 1) entries := by
  rw [behind, behind, List.map_map]
  apply List.map_congr_left
  rintro ⟨entry, position⟩ -
  apply congrArg (Prod.mk entry)
  change movedFor place (place + position) = place + 1 + position
  rw [movedFor, if_neg (Nat.not_lt.mpr (Nat.le_add_right place position))]
  exact Nat.add_right_comm place position 1

end Numbered

/-- The event of a definition that does not apply. -/
def refusal? (name : Name) (project : String) (definition : ScoreDefinition) : Option Event :=
  match matchTarget definition.target name project with
  | .ok () => none
  | .error error => some (.notApplicable definition.id name error)

/-- The event of a definition at a position, if the definition does not apply. -/
def refusalAt? (name : Name) (project : String) (entry : ScoreDefinition × Nat) :
    Option (Event × Nat) :=
  (refusal? name project entry.1).map (·, entry.2)

/-- Whether a selection splits the definitions in two: in order, those at the positions where the
target matches, and an event for each other position, which has what the matching of the target
there reports. -/
structure Selection.IsSplit (selection : Selection) (definitions : List ScoreDefinition)
    (name : Name) (project : String) : Prop where
  chosen : ∀ definition position, (definition, position) ∈ selection.chosen ↔
    definitions[position]? = some definition ∧ matchTarget definition.target name project = .ok ()
  chosenInOrder : InOrder selection.chosen
  logged : ∃ events, selection.log = events.map Prod.fst ∧ InOrder events ∧
    ∀ event position, (event, position) ∈ events ↔
      ∃ definition error, definitions[position]? = some definition ∧
        matchTarget definition.target name project = .error error ∧
        event = .notApplicable definition.id name error

section Splitting

variable {name : Name} {project : String} {definitions : List ScoreDefinition}

/-- A refusal is recorded with the error of its definition. -/
theorem refusal?_eq_some_iff {definition : ScoreDefinition} {event : Event} :
    refusal? name project definition = some event ↔
      ∃ error, matchTarget definition.target name project = .error error ∧
        event = .notApplicable definition.id name error := by
  rw [refusal?]
  cases matchTarget definition.target name project with
  | ok => exact iff_of_false nofun fun ⟨_, failed, _⟩ => nomatch failed
  | error error => simp only [Option.some.injEq, Except.error.injEq, exists_eq_left', eq_comm]

/-- The definitions that are chosen are those that match, at their positions. -/
theorem mem_chosen_iff {definition : ScoreDefinition} {position : Nat} :
    (definition, position) ∈ (select definitions name project).chosen ↔
      definitions[position]? = some definition ∧
        matchTarget definition.target name project = .ok () := by
  have isOk_iff : (matchTarget definition.target name project).isOk = true ↔
      matchTarget definition.target name project = .ok () := by
    cases matchTarget definition.target name project with
    | ok => exact iff_of_true rfl rfl
    | error => exact iff_of_false nofun nofun
  rw [select, List.mem_filter, List.mk_mem_zipIdx_iff_getElem?, isOk_iff]

/-- A refusal at a position is that of the definition there. -/
theorem refusalAt?_eq_some_iff {definition : ScoreDefinition} {event : Event}
    {place position : Nat} :
    refusalAt? name project (definition, place) = some (event, position) ↔
      place = position ∧ ∃ error, matchTarget definition.target name project = .error error ∧
        event = .notApplicable definition.id name error := by
  rw [← refusal?_eq_some_iff, refusalAt?, Option.map_eq_some_iff]
  simp only [Prod.mk.injEq, ← and_assoc, exists_and_right, exists_eq_right]
  exact and_comm

/-- Without the positions, the events are those of the log. -/
theorem log_eq_map_refusalAt? :
    (select definitions name project).log =
      (definitions.zipIdx.filterMap (refusalAt? name project)).map Prod.fst := by
  calc definitions.filterMap (refusal? name project)
    _ = (definitions.zipIdx.map Prod.fst).filterMap (refusal? name project) := by
        rw [List.zipIdx_map_fst]
    _ = (definitions.zipIdx.filterMap (refusalAt? name project)).map Prod.fst := by
        rw [List.filterMap_map, List.map_filterMap]
        simp only [refusalAt?, Option.map_map, Function.comp_def, Option.map_id']

/-- Refusals are recorded in the order of the definitions. -/
theorem inOrder_refusalAt? :
    InOrder (definitions.zipIdx.filterMap (refusalAt? name project)) := by
  refine (inOrder_zipIdx definitions).filterMap (refusalAt? name project) ?_
  rintro ⟨_, _⟩ ⟨_, _⟩ before ⟨_, _⟩ first ⟨_, _⟩ second
  obtain ⟨rfl, -⟩ := refusalAt?_eq_some_iff.mp first
  obtain ⟨rfl, -⟩ := refusalAt?_eq_some_iff.mp second
  exact before

/-- A selection splits the definitions. -/
theorem isSplit_select (definitions : List ScoreDefinition) (name : Name) (project : String) :
    (select definitions name project).IsSplit definitions name project where
  chosen _ _ := mem_chosen_iff
  chosenInOrder := (inOrder_zipIdx definitions).filter _
  logged := by
    refine ⟨_, log_eq_map_refusalAt?, inOrder_refusalAt?, fun event position => ?_⟩
    simp only [List.mem_filterMap, Prod.exists, List.mk_mem_zipIdx_iff_getElem?,
      refusalAt?_eq_some_iff]
    constructor
    · rintro ⟨definition, _, there, rfl, error, failed, rfl⟩
      exact ⟨definition, error, there, failed, rfl⟩
    · rintro ⟨definition, error, there, failed, rfl⟩
      exact ⟨definition, position, there, rfl, error, failed, rfl⟩

/-- A list of definitions is split in one way only. -/
theorem Selection.IsSplit.eq {selection other : Selection}
    (split : selection.IsSplit definitions name project)
    (alsoSplit : other.IsSplit definitions name project) : selection = other := by
  obtain ⟨events, log, ordered, members⟩ := split.logged
  obtain ⟨others, otherLog, alsoOrdered, otherMembers⟩ := alsoSplit.logged
  -- A list in order has no freedom left once its members are known; the fields give the members.
  have sameChosen : selection.chosen = other.chosen :=
    split.chosenInOrder.eq_of_mem_iff alsoSplit.chosenInOrder fun definition position =>
      (split.chosen definition position).trans (alsoSplit.chosen definition position).symm
  have sameEvents : events = others :=
    ordered.eq_of_mem_iff alsoOrdered fun event position =>
      (members event position).trans (otherMembers event position).symm
  have sameLog : selection.log = other.log := by rw [log, otherLog, sameEvents]
  cases selection
  cases other
  exact congrArg₂ Selection.mk sameChosen sameLog

/-- The selection is the one that splits the definitions. -/
theorem isSplit_iff_eq_select {selection : Selection} :
    selection.IsSplit definitions name project ↔ selection = select definitions name project := by
  constructor
  · exact fun split => split.eq (isSplit_select definitions name project)
  · rintro rfl
    exact isSplit_select definitions name project

end Splitting

section Parts

variable (name : Name) (project : String)

/-- What is chosen from two lists is chosen from the one and then from the other. -/
theorem chosen_append (first second : List ScoreDefinition) :
    (select (first ++ second) name project).chosen =
      (select first name project).chosen ++
        behind first.length (select second name project).chosen := by
  simp only [select, List.zipIdx_append, List.filter_append, Nat.zero_add]
  rw [List.zipIdx_eq_map_add (i := first.length), List.filter_map]
  rfl

/-- What is recorded for two lists is recorded for the one and then for the other. -/
theorem log_append (first second : List ScoreDefinition) :
    (select (first ++ second) name project).log =
      (select first name project).log ++ (select second name project).log :=
  List.filterMap_append

/-- What is chosen from two lists is chosen from each of them, and so is what is logged. -/
theorem select_append (first second : List ScoreDefinition) :
    select (first ++ second) name project =
      { chosen := (select first name project).chosen ++
          behind first.length (select second name project).chosen
        log := (select first name project).log ++ (select second name project).log } :=
  congrArg₂ Selection.mk (chosen_append name project first second)
    (log_append name project first second)

variable {name project} {broken : ScoreDefinition} {error : ParseError}

/-- A definition whose target is no pattern is not chosen. -/
theorem chosen_singleton_of_unreadable
    (unreadable : Pattern.parse (project ++ "/" ++ broken.target.pattern) = .error error) :
    (select [broken] name project).chosen = [] := by
  rw [List.eq_nil_iff_forall_not_mem]
  rintro ⟨definition, position⟩ member
  obtain ⟨there, matched⟩ := mem_chosen_iff.mp member
  obtain rfl : definition = broken := List.mem_singleton.mp (List.mem_of_getElem? there)
  rw [matchTarget, unreadable] at matched
  cases matched

/-- A target that is no pattern leaves the choice of the other definitions as it is. -/
theorem chosen_insert
    (unreadable : Pattern.parse (project ++ "/" ++ broken.target.pattern) = .error error)
    (before after : List ScoreDefinition) :
    (select (before ++ broken :: after) name project).chosen =
      (select (before ++ after) name project).chosen.map
        (Prod.map id (movedFor before.length)) := by
  have stay : (select before name project).chosen.map (Prod.map id (movedFor before.length)) =
      (select before name project).chosen := by
    refine map_movedFor_of_lt fun definition position member => ?_
    obtain ⟨inFront, -⟩ := List.getElem?_eq_some_iff.mp (mem_chosen_iff.mp member).1
    exact inFront
  calc (select (before ++ broken :: after) name project).chosen
    _ = (select before name project).chosen ++
          behind before.length (behind 1 (select after name project).chosen) := by
        rw [← List.singleton_append, chosen_append, chosen_append,
          chosen_singleton_of_unreadable unreadable]
        rfl
    _ = (select (before ++ after) name project).chosen.map
        (Prod.map id (movedFor before.length)) := by
        rw [chosen_append, List.map_append, stay, map_movedFor_behind, behind_behind]

/-- The event of a target that is no pattern is put in between those of the definitions around
it. -/
theorem log_insert
    (unreadable : Pattern.parse (project ++ "/" ++ broken.target.pattern) = .error error)
    (before after : List ScoreDefinition) :
    (select (before ++ broken :: after) name project).log =
      (select before name project).log ++
        .notApplicable broken.id name (.badTarget error) :: (select after name project).log := by
  have refused : refusal? name project broken =
      some (.notApplicable broken.id name (.badTarget error)) := by
    rw [refusal?_eq_some_iff, matchTarget, unreadable]
    exact ⟨_, rfl, rfl⟩
  rw [log_append]
  exact congrArg _ (List.filterMap_cons_some refused)

end Parts

section Revisions

variable {pattern : Pattern} {name : Name} {project : String}

/-- Whether what a selector stands for in a project names a revision. -/
def Selector.NamesRevision (selector : Selector) (project : String) : Prop :=
  ∃ pattern identifier, Pattern.parse (project ++ "/" ++ selector.pattern) = .ok pattern ∧
    pattern.slotAt? .revision = some (.literal identifier)

/-- A slot that is no literal accepts anything or nothing. -/
theorem Segment.accepts_congr {slot : Segment} (loose : ∀ identifier, slot ≠ literal identifier)
    (found other : Option Identifier) : slot.Accepts found ↔ slot.Accepts other := by
  cases slot with
  | literal identifier => exact absurd rfl (loose identifier)
  | wildcard | reference => exact Iff.rfl

/-- Another revision leaves all other places as they are. -/
theorem Resource.slotAt?_withRevision {S : Type} (resource : Resource S) (revision : Option S)
    {place : Place} (elsewhere : place ≠ .revision) :
    (resource.withRevision revision).slotAt? place = resource.slotAt? place := by
  obtain ⟨node, artifact⟩ := resource
  cases place with
  | revision => exact absurd rfl elsewhere
  | artifact => rfl
  | _ => cases node <;> rfl

/-- Another revision does not matter to the kinds. -/
theorem sameKinds_withRevision_iff (revision : Option Identifier) :
    SameKinds pattern (name.withRevision revision) ↔ SameKinds pattern name := by
  have whole : (name.withRevision revision).kind = name.kind := name.kind_withRevision revision
  have node : (name.withRevision revision).node.kind = name.node.kind :=
    name.node.kind_withRevision revision
  exact ⟨fun kinds => ⟨whole.symm.trans kinds.whole, node.symm.trans kinds.node⟩,
    fun kinds => ⟨whole.trans kinds.whole, node.trans kinds.node⟩⟩

/-- What a pattern that names no revision admits does not depend on the revision. -/
theorem admits_withRevision_iff
    (loose : ∀ identifier, pattern.slotAt? .revision ≠ some (.literal identifier))
    (revision : Option Identifier) (place : Place) :
    Admits pattern (name.withRevision revision) place ↔ Admits pattern name place := by
  rw [admits_iff, admits_iff]
  by_cases there : place = .revision
  · subst there
    refine forall₂_congr fun slot member => Segment.accepts_congr ?_ _ _
    rintro identifier rfl
    exact loose identifier member
  · rw [Resource.slotAt?_withRevision name revision there]

/-- A target that names no revision applies at any revision or at none. -/
theorem matchTarget_withRevision_eq_ok_iff {selector : Selector}
    (loose : ¬ selector.NamesRevision project) (revision : Option Identifier) :
    matchTarget selector (name.withRevision revision) project = .ok () ↔
      matchTarget selector name project = .ok () := by
  rw [matchTarget, matchTarget]
  cases read : Pattern.parse (project ++ "/" ++ selector.pattern) with
  | error => exact Iff.rfl
  | ok pattern =>
      have unnamed : ∀ identifier, pattern.slotAt? .revision ≠ some (.literal identifier) :=
        fun identifier named => loose ⟨pattern, identifier, read, named⟩
      change matchPattern pattern (name.withRevision revision) = .ok () ↔
        matchPattern pattern name = .ok ()
      simp only [matchPattern_eq_ok_iff_admits, sameKinds_withRevision_iff,
        admits_withRevision_iff unnamed]

end Revisions

/-- **Selection loses, repeats and reorders nothing.** It is the one way to split the definitions,
in order and by position, into those whose target matches and an event for each of the others. The
event names the definition, the resource and what is wrong. From two lists the same is selected as
from each of them, and a target that is no pattern leaves all others as they are. At another
revision the same definitions are selected, but for those whose target names a revision. -/
theorem selection_splits (name : Name) (project : String) :
    (∀ definitions selection, Selection.IsSplit selection definitions name project ↔
      selection = select definitions name project) ∧
    (∀ id error, (Event.notApplicable id name error).verbosity = .trace ∧
      (Event.notApplicable id name error).message = "score definition does not apply" ∧
      (Event.notApplicable id name error).fields =
        [("definition", .text id), ("resource", .text name.text), ("error", .text error.message)]) ∧
    (∀ first second, select (first ++ second) name project =
      { chosen := (select first name project).chosen ++
          behind first.length (select second name project).chosen
        log := (select first name project).log ++ (select second name project).log }) ∧
    (∀ before broken after error,
      Pattern.parse (project ++ "/" ++ broken.target.pattern) = .error error →
        (select (before ++ broken :: after) name project).chosen =
          (select (before ++ after) name project).chosen.map
            (Prod.map id (movedFor before.length)) ∧
        (select (before ++ broken :: after) name project).log =
          (select before name project).log ++
            .notApplicable broken.id name (.badTarget error) :: (select after name project).log) ∧
    ∀ definitions revision definition position, ¬ definition.target.NamesRevision project →
      ((definition, position) ∈ (select definitions (name.withRevision revision) project).chosen ↔
        (definition, position) ∈ (select definitions name project).chosen) := by
  refine ⟨fun _ _ => isSplit_iff_eq_select, fun _ _ => ⟨rfl, rfl, rfl⟩, select_append name project,
    ?broken, ?revisions⟩
  case broken =>
    intro before broken after error unreadable
    exact ⟨chosen_insert unreadable before after, log_insert unreadable before after⟩
  case revisions =>
    intro definitions revision definition position loose
    rw [mem_chosen_iff, mem_chosen_iff, matchTarget_withRevision_eq_ok_iff loose]

/-- For the lint artifacts of specs at any revision. -/
def lintRule : ScoreDefinition where
  id := "lint-rule"
  target := { pattern := "apis/-/versions/-/specs/-/artifacts/lint" }

/-- For all artifacts of specs at one revision. -/
def revisionRule : ScoreDefinition where
  id := "revision-rule"
  target := { pattern := "apis/-/versions/-/specs/-@rev5/artifacts/-" }

/-- The target lacks an identifier. -/
def brokenRule : ScoreDefinition where
  id := "broken-rule"
  target := { pattern := "apis/-/versions" }

/-- Put between the other two, the broken rule leaves them as they are. Of these, one is selected
for the artifact with and without the revision of its spec, the other one only with it. -/
theorem lint_rules_selected :
    (Pattern.parse "projects/mill/apis/-/versions" =
        .error (.invalid .resourcePattern "projects/mill/apis/-/versions" .unpaired) ∧
      (select [lintRule, brokenRule, revisionRule] grainLint "projects/mill").chosen =
        (select [lintRule, revisionRule] grainLint "projects/mill").chosen.map
          (Prod.map id (movedFor 1))) ∧
      (¬ lintRule.target.NamesRevision "projects/mill" ∧
        (lintRule, 0) ∈ (select [lintRule, revisionRule] grainLint "projects/mill").chosen ∧
        (lintRule, 0) ∈ (select [lintRule, revisionRule]
          (grainLint.withRevision (some ⟨"rev5", by decide⟩)) "projects/mill").chosen) ∧
      (revisionRule, 1) ∉ (select [lintRule, revisionRule] grainLint "projects/mill").chosen ∧
      (revisionRule, 1) ∈ (select [lintRule, revisionRule]
        (grainLint.withRevision (some ⟨"rev5", by decide⟩)) "projects/mill").chosen := by
  obtain ⟨-, -, -, broken, revisions⟩ := selection_splits grainLint "projects/mill"
  have unreadable : Pattern.parse "projects/mill/apis/-/versions" =
      .error (.invalid .resourcePattern "projects/mill/apis/-/versions" .unpaired) := by
    decide +kernel
  have loose : ¬ lintRule.target.NamesRevision "projects/mill" := by
    have unnamed :
        (Pattern.parse "projects/mill/apis/-/versions/-/specs/-/artifacts/lint").toOption.bind
          (·.slotAt? .revision) = none := by
      decide +kernel
    rintro ⟨pattern, identifier, read, named⟩
    change Pattern.parse "projects/mill/apis/-/versions/-/specs/-/artifacts/lint" =
      .ok pattern at read
    rw [read] at unnamed
    cases named.symm.trans unnamed
  have matched : matchTarget lintRule.target grainLint "projects/mill" = .ok () := by decide +kernel
  have selected :
      (lintRule, 0) ∈ (select [lintRule, revisionRule] grainLint "projects/mill").chosen :=
    mem_chosen_iff.mpr ⟨rfl, matched⟩
  have unmatched : matchTarget revisionRule.target grainLint "projects/mill" ≠ .ok () := by
    decide +kernel
  have rematched : matchTarget revisionRule.target
      (grainLint.withRevision (some ⟨"rev5", by decide⟩)) "projects/mill" = .ok () := by
    decide +kernel
  exact ⟨⟨unreadable, (broken [lintRule] brokenRule [revisionRule] _ unreadable).1⟩,
    ⟨loose, selected, (revisions _ _ _ _ loose).mpr selected⟩,
    fun member => unmatched (mem_chosen_iff.mp member).2, mem_chosen_iff.mpr ⟨rfl, rematched⟩⟩

end ScoringRules
