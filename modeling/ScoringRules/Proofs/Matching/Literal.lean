import ScoringRules.Proofs.Matching.Targets

/-!
# Literal patterns

A pattern of literals only is written like a name, and a text is a name just when it is such a
pattern. As a pattern it matches this name alone, except that a pattern which leaves a revision out
matches the name at any revision.

- `Resource.isLiteral_iff` tells the literal patterns, and `Name.parse_eq_ok_iff` how they are read
- `Node.literal_covers_iff` and `matchPattern_toPattern_eq_ok_iff` say what they match
- `names_are_literal_patterns` is what this means for a text
-/

namespace ScoringRules

section Revising

variable {S : Type}

/-- The node at another revision, or at none. Only specs and deployments have revisions. -/
def Node.withRevision (revision : Option S) : Node S → Node S
  | project p => project p
  | api p a => api p a
  | version p a v => version p a v
  | spec p a v s _ => spec p a v s revision
  | deployment p a d _ => deployment p a d revision

/-- The address with another revision, or with none, where its kind has revisions. -/
def Resource.withRevision (revision : Option S) (resource : Resource S) : Resource S :=
  { resource with node := resource.node.withRevision revision }

/-- Another revision keeps the kind of a node. -/
theorem Node.kind_withRevision (revision : Option S) (node : Node S) :
    (node.withRevision revision).kind = node.kind := by
  cases node <;> rfl

/-- Another revision keeps the kind of an address. -/
theorem Resource.kind_withRevision (revision : Option S) (resource : Resource S) :
    (resource.withRevision revision).kind = resource.kind := by
  obtain ⟨node, artifact⟩ := resource
  cases artifact with
  | none => exact node.kind_withRevision revision
  | some => rfl

/-- A node at its own revision is the node. -/
theorem Node.withRevision_revisionSlot? (node : Node S) :
    node.withRevision node.revisionSlot? = node := by
  cases node <;> rfl

/-- A revision that a node takes is the one that it has then. -/
theorem Node.withRevision_revisionSlot?_withRevision (node : Node S) (revision : Option S) :
    node.withRevision (node.withRevision revision).revisionSlot? = node.withRevision revision := by
  cases node <;> rfl

end Revising

section Mapping

variable {S T : Type} {f : S → T}

/-- A node whose slots are all in the image of a map is itself in the image. -/
theorem Node.exists_map {node : Node T} (image : ∀ slot ∈ node.slots, ∃ origin, f origin = slot) :
    ∃ origin : Node S, origin.map f = node := by
  have optional {revision : Option T}
      (image : ∀ slot ∈ revision.toList, ∃ origin, f origin = slot) :
      ∃ origin : Option S, origin.map f = revision := by
    cases revision with
    | none => exact ⟨none, rfl⟩
    | some slot =>
        obtain ⟨origin, rfl⟩ := image slot List.mem_cons_self
        exact ⟨some origin, rfl⟩
  cases node with
  | project p =>
      obtain ⟨p, rfl⟩ := image p (by simp [slots])
      exact ⟨.project p, rfl⟩
  | api p a =>
      simp only [slots, List.forall_mem_cons] at image
      obtain ⟨⟨p, rfl⟩, ⟨a, rfl⟩, -⟩ := image
      exact ⟨.api p a, rfl⟩
  | version p a v =>
      simp only [slots, List.forall_mem_cons] at image
      obtain ⟨⟨p, rfl⟩, ⟨a, rfl⟩, ⟨v, rfl⟩, -⟩ := image
      exact ⟨.version p a v, rfl⟩
  | spec p a v s r =>
      simp only [slots, List.forall_mem_append, List.forall_mem_cons] at image
      obtain ⟨⟨⟨p, rfl⟩, ⟨a, rfl⟩, ⟨v, rfl⟩, ⟨s, rfl⟩, -⟩, revision⟩ := image
      obtain ⟨r, rfl⟩ := optional revision
      exact ⟨.spec p a v s r, rfl⟩
  | deployment p a d r =>
      simp only [slots, List.forall_mem_append, List.forall_mem_cons] at image
      obtain ⟨⟨⟨p, rfl⟩, ⟨a, rfl⟩, ⟨d, rfl⟩, -⟩, revision⟩ := image
      obtain ⟨r, rfl⟩ := optional revision
      exact ⟨.deployment p a d r, rfl⟩

end Mapping

section Reading

/-- Whether every slot of a pattern is a literal, that of a revision included. -/
def Resource.IsLiteral (pattern : Pattern) : Prop :=
  ∀ slot ∈ pattern.slots, ∃ identifier, Segment.literal identifier = slot

/-- The literal patterns are those of names. -/
theorem Resource.isLiteral_iff {pattern : Pattern} :
    pattern.IsLiteral ↔ ∃ name : Name, name.toPattern = pattern := by
  constructor
  · intro literal
    obtain ⟨node, artifact⟩ := pattern
    obtain ⟨nodeLiteral, artifactLiteral⟩ := List.forall_mem_append.mp literal
    obtain ⟨origin, rfl⟩ := Node.exists_map nodeLiteral
    cases artifact with
    | none => exact ⟨⟨origin, none⟩, rfl⟩
    | some slot =>
        obtain ⟨identifier, rfl⟩ := artifactLiteral slot List.mem_cons_self
        exact ⟨⟨origin, some identifier⟩, rfl⟩
  · rintro ⟨name, rfl⟩ slot member
    rw [Name.toPattern, slots_map] at member
    obtain ⟨identifier, -, rfl⟩ := List.mem_map.mp member
    exact ⟨identifier, rfl⟩

/-- A name is spelled like its pattern. -/
theorem Name.spelled_toPattern (name : Name) (located : Bool) :
    name.toPattern.spelled located = name.spelled located := by
  have spelling : name.toPattern.spelling located = name.spelling located := by
    obtain ⟨node, artifact⟩ := name
    cases node with
    | project | api | version => cases artifact <;> rfl
    | spec _ _ _ _ revision | deployment _ _ _ revision => cases revision <;> cases artifact <;> rfl
  rw [Resource.spelled, spelling, Resource.spelled]

/-- A text is read as a name just when it is read as the pattern of that name. -/
theorem Name.parse_eq_ok_iff {text : String} {name : Name} :
    Name.parse text = .ok name ↔ Pattern.parse text = .ok name.toPattern := by
  rw [Name.parse, Pattern.parse, Resource.parse_eq_ok_iff, Resource.parse_eq_ok_iff]
  simp only [Name.spelled_toPattern]

end Reading

section Matching

/-- A literal covers no other literal. -/
theorem Segment.literal_covers_iff {expected found : Identifier} :
    (literal expected).Covers (some (literal found)) ↔ found = expected := by
  rw [Covers, Option.some.injEq, literal.injEq]

/-- A literal revision covers just itself, and one that is left out covers any. -/
theorem Segment.revision_covers_iff {expected found : Option Identifier} :
    ((expected.map literal).getD wildcard).Covers (found.map literal) ↔
      found = expected ∨ expected = none := by
  cases expected with
  | none => exact iff_of_true (accepts_iff_covers.mp trivial) (.inr rfl)
  | some expected =>
      have accepts : found = some expected ↔ (literal expected).Covers (found.map literal) :=
        @accepts_iff_covers (literal expected) found
      simpa only [Option.map_some, Option.getD_some, reduceCtorEq, or_false] using accepts.symm

/-- A literal node covers the nodes that differ from it in the revision at most, and only if it has
none. -/
theorem Node.literal_covers_iff_withRevision {node found : Node Identifier} :
    (node.map Segment.literal).Covers (found.map Segment.literal) ↔
      found = node.withRevision found.revisionSlot? ∧
        (found.revisionSlot? = node.revisionSlot? ∨ node.revisionSlot? = none) := by
  by_cases same : found.kind = node.kind
  · cases node with
    | project =>
        cases found with
        | project =>
            simp [map, covers_project_iff, Segment.literal_covers_iff, withRevision, revisionSlot?]
        | _ => cases same
    | api =>
        cases found with
        | api =>
            simp [map, covers_api_iff, Segment.literal_covers_iff, withRevision, revisionSlot?]
        | _ => cases same
    | version =>
        cases found with
        | version =>
            simp [map, covers_version_iff, Segment.literal_covers_iff, withRevision, revisionSlot?]
        | _ => cases same
    | spec =>
        cases found with
        | spec =>
            simp [map, covers_spec_iff, Segment.literal_covers_iff, Segment.revision_covers_iff,
              withRevision, revisionSlot?, and_assoc]
        | _ => cases same
    | deployment =>
        cases found with
        | deployment =>
            simp [map, covers_deployment_iff, Segment.literal_covers_iff,
              Segment.revision_covers_iff, withRevision, revisionSlot?, and_assoc]
        | _ => cases same
  · apply iff_of_false
    · intro covers
      have kinds := covers.kind_eq
      rw [kind_map, kind_map] at kinds
      exact same kinds
    · rintro ⟨revised, -⟩
      rw [revised, kind_withRevision] at same
      exact same rfl

/-- A literal node covers just itself, or itself at any revision when it has none. -/
theorem Node.literal_covers_iff {node found : Node Identifier} :
    (node.map Segment.literal).Covers (found.map Segment.literal) ↔
      found = node ∨
        node.revisionSlot? = none ∧ ∃ revision, found = node.withRevision revision := by
  rw [literal_covers_iff_withRevision]
  constructor
  · rintro ⟨revised, same | unrevised⟩
    · rw [same, withRevision_revisionSlot?] at revised
      exact .inl revised
    · exact .inr ⟨unrevised, _, revised⟩
  · rintro (rfl | ⟨unrevised, revision, rfl⟩)
    · exact ⟨found.withRevision_revisionSlot?.symm, .inl rfl⟩
    · exact ⟨(node.withRevision_revisionSlot?_withRevision revision).symm, .inr unrevised⟩

/-- The pattern of a name matches just the name, or the name at any revision when it has none. -/
theorem matchPattern_toPattern_eq_ok_iff {name other : Name} {done : Unit} :
    matchPattern name.toPattern other = .ok done ↔
      other = name ∨
        name.node.revisionSlot? = none ∧ ∃ revision, other = name.withRevision revision := by
  rw [matchPattern_eq_ok_iff]
  obtain ⟨node, artifact⟩ := name
  obtain ⟨found, identifier⟩ := other
  have artifacts : Option.Rel (fun slot other : Segment => slot.Covers (some other))
      (artifact.map .literal) (identifier.map .literal) ↔ identifier = artifact := by
    cases artifact <;> cases identifier <;>
      simp [Segment.literal_covers_iff]
  have covers :
      Resource.Covers (Name.toPattern ⟨node, artifact⟩) (Name.toPattern ⟨found, identifier⟩) ↔
      (node.map Segment.literal).Covers (found.map Segment.literal) ∧ identifier = artifact := by
    rw [← artifacts]
    exact ⟨fun covers => ⟨covers.node, covers.artifact⟩, fun both => ⟨both.1, both.2⟩⟩
  rw [covers, Node.literal_covers_iff]
  simp only [Resource.withRevision, Resource.mk.injEq, or_and_right, and_assoc, exists_and_right]

end Matching

/-- **Names are the literal patterns.** A text is a name just when it is a pattern of literals only,
which then is the name slot by slot and is written like it. As a pattern it matches the name, and
nothing else but the name at other revisions, if it gives none. -/
theorem names_are_literal_patterns (text : String) :
    ((∃ name, Name.parse text = .ok name) ↔
        ∃ pattern, Pattern.parse text = .ok pattern ∧ pattern.IsLiteral) ∧
      ∀ name pattern, Name.parse text = .ok name → Pattern.parse text = .ok pattern →
        pattern = name.toPattern ∧ pattern.text = name.text ∧ matchPattern pattern name = .ok () ∧
          ∀ other, matchPattern pattern other = .ok () ↔
            other = name ∨
              name.node.revisionSlot? = none ∧ ∃ revision, other = name.withRevision revision := by
  simp only [Name.parse_eq_ok_iff, Resource.isLiteral_iff]
  constructor
  · constructor
    · rintro ⟨name, parsed⟩
      exact ⟨name.toPattern, parsed, name, rfl⟩
    · rintro ⟨_, parsed, name, rfl⟩
      exact ⟨name, parsed⟩
  · intro name pattern parsed reparsed
    obtain rfl : name.toPattern = pattern := Except.ok.inj (parsed.symm.trans reparsed)
    exact ⟨rfl, name.text_toPattern, matchPattern_toPattern_eq_ok_iff.mpr (.inl rfl),
      fun other => matchPattern_toPattern_eq_ok_iff⟩

/-- An artifact of a spec without a revision. -/
def grainLint : Name where
  node := .spec ⟨"mill", by decide⟩ ⟨"grain", by decide⟩ ⟨"v6", by decide⟩ ⟨"open", by decide⟩ none
  artifact? := some ⟨"lint", by decide⟩

/-- The text of the artifact is a literal pattern, which also matches the artifact at a revision of
its spec. -/
theorem grain_lint_matched_at_revision :
    Name.parse "projects/mill/apis/grain/versions/v6/specs/open/artifacts/lint" = .ok grainLint ∧
      (∃ pattern, Pattern.parse "projects/mill/apis/grain/versions/v6/specs/open/artifacts/lint" =
        .ok pattern ∧ pattern.IsLiteral) ∧
      grainLint.toPattern.text = grainLint.text ∧
      matchPattern grainLint.toPattern (grainLint.withRevision (some ⟨"rev5", by decide⟩)) =
        .ok () := by
  obtain ⟨named, alike⟩ :=
    names_are_literal_patterns "projects/mill/apis/grain/versions/v6/specs/open/artifacts/lint"
  have parsed : Name.parse "projects/mill/apis/grain/versions/v6/specs/open/artifacts/lint" =
      .ok grainLint := by decide +kernel
  have reparsed : Pattern.parse "projects/mill/apis/grain/versions/v6/specs/open/artifacts/lint" =
      .ok grainLint.toPattern := by decide +kernel
  obtain ⟨-, text, -, matched⟩ := alike _ _ parsed reparsed
  exact ⟨parsed, named.mp ⟨_, parsed⟩, text, (matched _).mpr (.inr ⟨rfl, _, rfl⟩)⟩

end ScoringRules
