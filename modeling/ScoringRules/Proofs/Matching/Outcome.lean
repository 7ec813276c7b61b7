import ScoringRules.Proofs.First
import ScoringRules.Proofs.Matching.Covers

/-!
# Outcomes of matching

What matching finds, told by the places of the two addresses and not by the comparisons that are
made. A name matches a pattern of its kinds that admits it at every place. Otherwise the first thing
that is wrong is reported: the project, then the kinds, then the place below the project that comes
first in the hierarchy.

- `Admits` says what a pattern allows at one place, `SameKinds` when the places of two addresses
  correspond
- `Rejection` tells the error of a name that does not match
- `matching_decides` finds exactly the one or the other
-/

namespace ScoringRules

namespace Place

/-- The places of a node below its project, from the top down. -/
def nodeLevels : List Place := [api, version, spec, deployment, revision]

/-- The places of an address below its project, from the top down. -/
def levels : List Place := nodeLevels ++ [artifact]

/-- Every place is the project or below it. -/
theorem eq_project_or_mem_levels (place : Place) : place = project ∨ place ∈ levels := by
  cases place <;> decide

end Place

/-- What an address has at a place, if it has anything there. -/
def Resource.slotAt? (resource : Resource S) : Place → Option S
  | .project => some resource.node.projectSlot
  | .api => resource.node.apiSlot?
  | .version => resource.node.versionSlot?
  | .spec => resource.node.specSlot?
  | .deployment => resource.node.deploymentSlot?
  | .revision => resource.node.revisionSlot?
  | .artifact => resource.artifact?

section Outcomes

variable (pattern : Pattern) (name : Name)

/-- Whether two addresses are of one kind. Artifacts have parents of one kind, too. -/
structure SameKinds : Prop where
  whole : name.kind = pattern.kind
  node : name.node.kind = pattern.node.kind

/-- Whether the slot that a pattern has at a place, if it has one, is a wildcard or the very
identifier that the name has there. -/
def Admits (place : Place) : Prop :=
  ∀ slot ∈ pattern.slotAt? place,
    slot = .wildcard ∨ ∃ identifier ∈ name.slotAt? place, slot = .literal identifier

/-- The error of a name that does not match a pattern: what is wrong first, with both whole
addresses, and with their kinds where those differ. -/
inductive Rejection : MatchError → Prop
  | project (rejected : ¬ Admits pattern name .project) :
      Rejection (.segmentMismatch .project pattern.node.projectSlot (some name.node.projectSlot)
        pattern name)
  | kind (project : Admits pattern name .project) (different : ¬ SameKinds pattern name) :
      Rejection (.kindMismatch pattern name pattern.kind name.kind)
  | level {place : Place} {slot : Segment} (project : Admits pattern name .project)
      (kinds : SameKinds pattern name)
      (first : IsFirst (fun place => ¬ Admits pattern name place) Place.levels place)
      (expected : pattern.slotAt? place = some slot) :
      Rejection (.segmentMismatch place slot (name.slotAt? place) pattern name)

/-- The comparison at a place, if the pattern has a slot there. -/
def comparisonAt (place : Place) : Option Comparison :=
  (pattern.slotAt? place).map fun slot => ⟨place, slot, name.slotAt? place⟩

end Outcomes

variable {pattern : Pattern} {name : Name}

/-- A slot accepts what it is a literal of, and a wildcard accepts anything. -/
theorem Segment.accepts_iff {slot : Segment} {found : Option Identifier} :
    slot.Accepts found ↔ slot = wildcard ∨ ∃ identifier ∈ found, slot = literal identifier := by
  cases slot with
  | wildcard => exact iff_of_true trivial (.inl rfl)
  | literal expected =>
      simp only [Accepts, reduceCtorEq, literal.injEq, false_or, exists_eq_right', Option.mem_def]
  | reference level =>
      apply iff_of_false id
      rintro (same | ⟨_, -, same⟩) <;> cases same

/-- A pattern admits a name at a place when its slot there accepts what the name has. -/
theorem admits_iff {place : Place} :
    Admits pattern name place ↔
      ∀ slot ∈ pattern.slotAt? place, slot.Accepts (name.slotAt? place) := by
  simp only [Admits, Segment.accepts_iff]

/-- A name is not admitted at a place when the slot there does not accept it. -/
theorem not_admits_iff {place : Place} :
    ¬ Admits pattern name place ↔
      ∃ slot, pattern.slotAt? place = some slot ∧ ¬ slot.Accepts (name.slotAt? place) := by
  simp only [admits_iff, not_forall, exists_prop, Option.mem_def]

/-- A comparison fails at a place when the pattern does not admit the name there. -/
theorem comparisonAt_fails_iff {place : Place} :
    ((comparisonAt pattern name place).any fun comparison => ¬ comparison.Succeeds) ↔
      ¬ Admits pattern name place := by
  rw [not_admits_iff, comparisonAt]
  cases pattern.slotAt? place with
  | none => exact iff_of_false Bool.false_ne_true nofun
  | some slot =>
      rw [Option.map_some, Option.any_some, decide_eq_true_iff]
      simp only [Comparison.Succeeds, Option.some.injEq, exists_eq_left']

/-- Nodes are compared place by place, when they are of one kind. -/
theorem Node.comparisons?_eq_some_iff {node : Node Segment} {found : Node Identifier}
    {comparisons : List Comparison} :
    node.comparisons? found = some comparisons ↔
      found.kind = node.kind ∧
        Place.levels.filterMap (comparisonAt ⟨node, none⟩ ⟨found, none⟩) = comparisons := by
  by_cases same : found.kind = node.kind
  · rw [and_iff_right same]
    cases node with
    | project => cases found with
      | project => exact Option.some_inj
      | _ => cases same
    | api => cases found with
      | api => exact Option.some_inj
      | _ => cases same
    | version => cases found with
      | version => exact Option.some_inj
      | _ => cases same
    | spec _ _ _ _ revision => cases found with
      | spec => cases revision <;> exact Option.some_inj
      | _ => cases same
    | deployment _ _ _ revision => cases found with
      | deployment => cases revision <;> exact Option.some_inj
      | _ => cases same
  · exact iff_of_false (fun related => same (kind_eq_of_comparisons related))
      fun both => same both.1

/-- What an artifact adds to the comparisons of its parent. -/
theorem filterMap_comparisonAt_artifact {node : Node Segment} {found : Node Identifier}
    {slot : Segment} {identifier : Identifier} :
    Place.levels.filterMap (comparisonAt ⟨node, some slot⟩ ⟨found, some identifier⟩) =
      Place.levels.filterMap (comparisonAt ⟨node, none⟩ ⟨found, none⟩) ++
        [⟨.artifact, slot, some identifier⟩] := by
  rw [Place.levels, List.filterMap_append, List.filterMap_append]
  exact congrArg (· ++ _) (List.append_nil _).symm

/-- Addresses of the same kinds are compared place by place, and others are not compared. -/
theorem comparisons?_eq_some_iff {comparisons : List Comparison} :
    comparisons? pattern name = some comparisons ↔
      SameKinds pattern name ∧
        Place.levels.filterMap (comparisonAt pattern name) = comparisons := by
  obtain ⟨node, artifact⟩ := pattern
  obtain ⟨found, identifier⟩ := name
  cases artifact with
  | none =>
      cases identifier with
      | none =>
          refine Node.comparisons?_eq_some_iff.trans (and_congr_left fun _ => ?_)
          exact ⟨fun same => ⟨same, same⟩, SameKinds.node⟩
      | some identifier =>
          refine iff_of_false nofun fun both => ?_
          have whole := both.1.whole
          cases node <;> cases whole
  | some slot =>
      cases identifier with
      | none =>
          refine iff_of_false nofun fun both => ?_
          have whole := both.1.whole
          cases found <;> cases whole
      | some identifier =>
          have kinds : found.kind = node.kind ↔
              SameKinds ⟨node, some slot⟩ ⟨found, some identifier⟩ :=
            ⟨fun same => ⟨rfl, same⟩, SameKinds.node⟩
          simp only [comparisons?, Option.map_eq_some_iff, Node.comparisons?_eq_some_iff, kinds,
            and_assoc, exists_and_left, exists_eq_left', filterMap_comparisonAt_artifact]

/-- Addresses of different kinds are not compared. -/
theorem comparisons?_eq_none_iff :
    comparisons? pattern name = none ↔ ¬ SameKinds pattern name := by
  rw [← not_iff_not, not_not, ← ne_eq, Option.ne_none_iff_exists']
  simp only [comparisons?_eq_some_iff, exists_and_left, exists_eq', and_true]

/-- What is required of the places is that the pattern admits the name at each of them. -/
theorem require_places_eq_ok_iff {places : List Place} {done : Unit} :
    require pattern name (places.filterMap (comparisonAt pattern name)) = .ok done ↔
      ∀ place ∈ places, Admits pattern name place := by
  simp only [require_eq_ok_iff, List.mem_filterMap, forall_exists_index, and_imp, admits_iff,
    comparisonAt, Option.map_eq_some_iff, Option.mem_def]
  constructor
  · intro all place member slot here
    exact all _ place member slot here rfl
  · rintro all _ place member slot here rfl
    exact all place member slot here

/-- The first comparison that fails is reported, with both whole addresses. -/
theorem require_eq_error_iff {comparisons : List Comparison} {error : MatchError} :
    require pattern name comparisons = .error error ↔
      ∃ failed, (comparisons.find? fun comparison => ¬ comparison.Succeeds) = some failed ∧
        error = .segmentMismatch failed.place failed.expected failed.found pattern name := by
  rw [require]
  cases comparisons.find? fun comparison => ¬ comparison.Succeeds with
  | none =>
      apply iff_of_false nofun
      rintro ⟨_, ⟨⟩, -⟩
  | some failed => simp only [Except.error.injEq, Option.some.injEq, exists_eq_left', eq_comm]

/-- The first place where the pattern does not admit the name is reported. -/
theorem require_places_eq_error_iff {places : List Place} {error : MatchError} :
    require pattern name (places.filterMap (comparisonAt pattern name)) = .error error ↔
      ∃ place slot, IsFirst (fun place => ¬ Admits pattern name place) places place ∧
        pattern.slotAt? place = some slot ∧
        error = .segmentMismatch place slot (name.slotAt? place) pattern name := by
  simp only [require_eq_error_iff, List.find?_filterMap, Option.bind_eq_some_iff,
    find?_eq_some_iff_isFirst, comparisonAt_fails_iff]
  constructor
  · rintro ⟨failed, ⟨place, first, here⟩, rfl⟩
    obtain ⟨slot, expected, rfl⟩ := Option.map_eq_some_iff.mp here
    exact ⟨place, slot, first, expected, rfl⟩
  · rintro ⟨place, slot, first, expected, rfl⟩
    exact ⟨_, ⟨place, first, Option.map_eq_some_iff.mpr ⟨slot, expected, rfl⟩⟩, rfl⟩

/-- Matching requires that the project is admitted, then that the kinds are the same, and then that
all places below the project are admitted. -/
theorem matchPattern_eq (pattern : Pattern) (name : Name) :
    matchPattern pattern name = (do
      require pattern name ([.project].filterMap (comparisonAt pattern name))
      match comparisons? pattern name with
      | none => .error (.kindMismatch pattern name pattern.kind name.kind)
      | some comparisons => require pattern name comparisons) := rfl

/-- A name matches a pattern of its kinds that admits it at every place. -/
theorem matchPattern_eq_ok_iff_admits {done : Unit} :
    matchPattern pattern name = .ok done ↔
      SameKinds pattern name ∧ ∀ place, Admits pattern name place := by
  have places : (∀ place, Admits pattern name place) ↔
      Admits pattern name .project ∧ ∀ place ∈ Place.levels, Admits pattern name place := by
    refine ⟨fun all => ⟨all _, fun place _ => all place⟩, fun both place => ?_⟩
    rcases place.eq_project_or_mem_levels with rfl | below
    · exact both.1
    · exact both.2 place below
  rw [matchPattern_eq, bind_eq_ok_iff, places, and_left_comm]
  simp only [require_places_eq_ok_iff, List.forall_mem_singleton, exists_const]
  apply and_congr_right
  intro _
  cases compared : comparisons? pattern name with
  | none => exact iff_of_false nofun fun both => comparisons?_eq_none_iff.mp compared both.1
  | some comparisons =>
      obtain ⟨kinds, rfl⟩ := comparisons?_eq_some_iff.mp compared
      rw [and_iff_right kinds]
      exact require_places_eq_ok_iff

/-- Matching fails with the rejection. -/
theorem matchPattern_eq_error_iff {error : MatchError} :
    matchPattern pattern name = .error error ↔ Rejection pattern name error := by
  rw [matchPattern_eq, bind_eq_error_iff]
  simp only [require_places_eq_ok_iff, require_places_eq_error_iff, List.forall_mem_singleton,
    exists_const, isFirst_singleton_iff]
  constructor
  · rintro (⟨_, slot, ⟨rfl, rejected⟩, expected, rfl⟩ | ⟨project, failed⟩)
    · cases expected
      exact .project rejected
    · cases compared : comparisons? pattern name with
      | none =>
          rw [compared] at failed
          cases failed
          exact .kind project (comparisons?_eq_none_iff.mp compared)
      | some comparisons =>
          obtain ⟨kinds, rfl⟩ := comparisons?_eq_some_iff.mp compared
          rw [compared] at failed
          obtain ⟨place, slot, first, expected, rfl⟩ := require_places_eq_error_iff.mp failed
          exact .level project kinds first expected
  · intro rejection
    cases rejection with
    | project rejected => exact .inl ⟨_, _, ⟨rfl, rejected⟩, rfl, rfl⟩
    | kind project different =>
        rw [comparisons?_eq_none_iff.mpr different]
        exact .inr ⟨project, rfl⟩
    | level project kinds first expected =>
        rw [comparisons?_eq_some_iff.mpr ⟨kinds, rfl⟩]
        exact .inr ⟨project, require_places_eq_error_iff.mpr ⟨_, _, first, expected, rfl⟩⟩

/-- **A name is matched place by place, and what is wrong first is reported.** A name matches a
pattern just when they are of the same kinds and the pattern admits the name at every place.
Otherwise matching fails with exactly one error, which is the rejection; one of kinds carries the
kinds of the two whole addresses. Messages give both canonical texts, and that of a slot also quotes
the slot and the identifier of the name, or nothing where the name has none. -/
theorem matching_decides (pattern : Pattern) (name : Name) :
    (matchPattern pattern name = .ok () ↔
        SameKinds pattern name ∧ ∀ place, Admits pattern name place) ∧
      (∀ error, matchPattern pattern name = .error error ↔ Rejection pattern name error) ∧
      (matchPattern pattern name = .error (.kindMismatch pattern name pattern.kind name.kind) ↔
        Admits pattern name .project ∧ ¬ SameKinds pattern name) ∧
      (MatchError.kindMismatch pattern name pattern.kind name.kind).message =
        "resource " ++ name.text ++ " doesn't match target pattern " ++ pattern.text ∧
      ∀ place slot,
        (MatchError.segmentMismatch place slot (name.slotAt? place) pattern name).message =
          place.label ++ " mismatch in resource " ++ name.text ++ " and target pattern " ++
            pattern.text ++ ": expected \"" ++ slot.text ++ "\", found \"" ++
            ((name.slotAt? place).map Identifier.text).getD "" ++ "\"" := by
  refine ⟨matchPattern_eq_ok_iff_admits, fun _ => matchPattern_eq_error_iff, ?kinds, rfl,
    fun place slot => ?message⟩
  case kinds =>
    rw [matchPattern_eq_error_iff]
    constructor
    · rintro (_ | ⟨project, different⟩)
      exact ⟨project, different⟩
    · exact fun ⟨project, different⟩ => .kind project different
  case message =>
    rw [MatchError.message]
    cases name.slotAt? place <;> rfl

end ScoringRules
