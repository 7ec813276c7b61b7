import Mathlib.Data.List.Forall2
import ScoringRules.Matching
import ScoringRules.Proofs.Result

/-!
# Patterns that cover others

A pattern covers another one when it is of the same shape and each of its slots is a wildcard or the
slot at its place in the other one. A name is covered as the pattern of its literal slots, and then
covering is matching. Covering is kept by going up the hierarchy, so what is found out about a
pattern carries over to all that it covers.

- `Resource.Covers` is the relation, built from `Segment.Covers` and `Node.Covers`
- `Resource.Covers.trans` composes it, `Resource.Covers.ancestor?` goes up the hierarchy
- `matchPattern_eq_ok_iff` identifies it with matching
-/

namespace ScoringRules

section Mapping

variable {S T : Type} (f : S → T)

/-- The node with every slot replaced. -/
def Node.map : Node S → Node T
  | project p => project (f p)
  | api p a => api (f p) (f a)
  | version p a v => version (f p) (f a) (f v)
  | spec p a v s r => spec (f p) (f a) (f v) (f s) (r.map f)
  | deployment p a d r => deployment (f p) (f a) (f d) (r.map f)

/-- Puts other slots at the places of an address. -/
def Resource.map (resource : Resource S) : Resource T where
  node := resource.node.map f
  artifact? := resource.artifact?.map f

/-- Mapping the slots of a node keeps its kind. -/
theorem Node.kind_map (node : Node S) : (node.map f).kind = node.kind := by
  cases node <;> rfl

/-- Mapping the slots of an address keeps its kind. -/
theorem Resource.kind_map (resource : Resource S) : (resource.map f).kind = resource.kind := by
  obtain ⟨node, artifact⟩ := resource
  cases node <;> cases artifact <;> rfl

/-- The slots of a node are mapped in their order. -/
theorem Node.slots_map (node : Node S) : (node.map f).slots = node.slots.map f := by
  cases node with
  | project | api | version => rfl
  | spec _ _ _ _ r | deployment _ _ _ r => cases r <;> rfl

/-- The slots of an address are mapped in their order. -/
theorem Resource.slots_map (resource : Resource S) :
    (resource.map f).slots = resource.slots.map f := by
  obtain ⟨node, artifact⟩ := resource
  rw [slots, slots, List.map_append, map, Node.slots_map]
  cases artifact <;> rfl

/-- The lineage of a mapped address is the mapped lineage. -/
theorem Resource.lineage_map (resource : Resource S) :
    (resource.map f).lineage = resource.lineage.map (Resource.map f) := by
  obtain ⟨node, artifact⟩ := resource
  cases node <;> cases artifact <;> rfl

/-- The ancestors of a mapped address are the mapped ancestors. -/
theorem Resource.ancestor?_map (resource : Resource S) (kind : Kind) :
    (resource.map f).ancestor? kind = (resource.ancestor? kind).map (Resource.map f) := by
  unfold ancestor?
  rw [lineage_map, List.find?_map]
  simp only [Function.comp_def, kind_map]

end Mapping

section Places

variable {S : Type}

/-- The slots of a node at their places, among them the place of a revision, which may be empty. -/
def Node.places : Node S → List (Option S)
  | project p => [some p]
  | api p a => [some p, some a]
  | version p a v => [some p, some a, some v]
  | spec p a v s r => [some p, some a, some v, some s, r]
  | deployment p a d r => [some p, some a, some d, r]

/-- What an address has at the places of its kind, from the top down. -/
def Resource.places (resource : Resource S) : List (Option S) :=
  resource.node.places ++ [resource.artifact?]

/-- What holds of each slot of an address holds of what is at each place. -/
theorem Resource.forall_slots_iff {resource : Resource S} {condition : S → Prop} :
    (∀ slot ∈ resource.slots, condition slot) ↔
      ∀ place ∈ resource.places, ∀ slot ∈ place, condition slot := by
  obtain ⟨node, artifact⟩ := resource
  cases node <;> simp [slots, Node.slots, places, Node.places, or_imp, forall_and]

end Places

/-- A name as the pattern that only it matches, revisions apart. -/
def Name.toPattern (name : Name) : Pattern := name.map Segment.literal

/-- A name and its pattern are written alike. -/
theorem Name.text_toPattern (name : Name) : name.toPattern.text = name.text := by
  obtain ⟨node, artifact⟩ := name
  have steps :
      Resource.steps (Name.toPattern ⟨node, artifact⟩) = Resource.steps ⟨node, artifact⟩ := by
    cases node with
    | project | api | version => cases artifact <;> rfl
    | spec p a v s r | deployment p a d r => cases r <;> cases artifact <;> rfl
  rw [Resource.text, Resource.text, steps]

/-- What is above a name is above its pattern. -/
theorem Name.exists_ancestor {name : Name} {kind : Kind} {above : Pattern}
    (found : name.toPattern.ancestor? kind = some above) :
    ∃ concrete : Name, name.ancestor? kind = some concrete ∧ concrete.toPattern = above := by
  rw [toPattern, Resource.ancestor?_map] at found
  exact Option.map_eq_some_iff.mp found

/-- Whether a slot covers what stands at its place in another pattern, if anything does. The
wildcard covers everything but references, which stand for nothing yet, and any other slot covers
itself. -/
def Segment.Covers : Segment → Option Segment → Prop
  | literal expected, found => found = some (literal expected)
  | wildcard, found => ∀ slot ∈ found, ¬ slot.IsReference
  | reference level, found => found = some (reference level)

/-- Whether the slots of a node cover those of another node of its kind. A node without a revision
covers any revision, as one with a wildcard does. -/
inductive Node.Covers : Node Segment → Node Segment → Prop
  | project {p q : Segment} (project : p.Covers (some q)) : Covers (.project p) (.project q)
  | api {p q a b : Segment} (project : p.Covers (some q)) (api : a.Covers (some b)) :
      Covers (.api p a) (.api q b)
  | version {p q a b v w : Segment} (project : p.Covers (some q)) (api : a.Covers (some b))
      (version : v.Covers (some w)) : Covers (.version p a v) (.version q b w)
  | spec {p q a b v w s t : Segment} {r e : Option Segment} (project : p.Covers (some q))
      (api : a.Covers (some b)) (version : v.Covers (some w)) (spec : s.Covers (some t))
      (revision : (r.getD .wildcard).Covers e) : Covers (.spec p a v s r) (.spec q b w t e)
  | deployment {p q a b d t : Segment} {r e : Option Segment} (project : p.Covers (some q))
      (api : a.Covers (some b)) (deployment : d.Covers (some t))
      (revision : (r.getD .wildcard).Covers e) : Covers (.deployment p a d r) (.deployment q b t e)

/-- Whether the slots of a pattern cover those of another pattern of its shape. -/
structure Resource.Covers (pattern covered : Pattern) : Prop where
  node : pattern.node.Covers covered.node
  artifact : Option.Rel (fun slot found => slot.Covers (some found)) pattern.artifact?
    covered.artifact?

namespace Segment

/-- A wildcard covers all slots but references. -/
theorem wildcard_covers {slot : Segment} (free : ¬ slot.IsReference) :
    wildcard.Covers (some slot) := by
  intro other same
  cases same
  exact free

/-- A slot covers itself. -/
theorem covers_self (slot : Segment) : slot.Covers (some slot) := by
  cases slot with
  | literal | reference => rfl
  | wildcard => exact wildcard_covers id

/-- A revision covers itself, and one that is left out covers any. -/
theorem covers_revision (revision : Option Segment) :
    (revision.getD wildcard).Covers revision := by
  cases revision with
  | none => exact nofun
  | some slot => exact covers_self slot

/-- A slot accepts what it covers as a literal. -/
theorem accepts_iff_covers {slot : Segment} {found : Option Identifier} :
    slot.Accepts found ↔ slot.Covers (found.map literal) := by
  cases slot with
  | literal expected =>
      cases found with
      | none => exact iff_of_false nofun nofun
      | some identifier => simp only [Accepts, Covers, Option.map_some, Option.some.injEq,
          literal.injEq]
  | wildcard =>
      apply iff_of_true trivial
      cases found with
      | none => exact nofun
      | some identifier => exact wildcard_covers id
  | reference level =>
      cases found with
      | none => exact iff_of_false id nofun
      | some identifier => exact iff_of_false id nofun

/-- What is covered by a slot without reference is no reference either. -/
theorem Covers.not_isReference {slot : Segment} {found : Option Segment}
    (covers : slot.Covers found) (free : ¬ slot.IsReference) :
    ∀ other ∈ found, ¬ other.IsReference := by
  cases slot with
  | literal expected =>
      cases covers
      rintro _ ⟨⟩
      exact id
  | wildcard => exact covers
  | reference level => exact absurd trivial free

/-- A slot that covers something without reference is no reference. -/
theorem Covers.not_isReference_of_covered {slot : Segment} {found : Option Segment}
    (covers : slot.Covers found) (free : ∀ other ∈ found, ¬ other.IsReference) :
    ¬ slot.IsReference := by
  cases slot with
  | literal | wildcard => exact id
  | reference level =>
      cases covers
      exact free (reference level) rfl

/-- References are at the places where what is covered has them. -/
theorem free_iff_of_covers {expected found : Option Segment}
    (covers : (expected.getD wildcard).Covers found) :
    (∀ slot ∈ expected, ¬ slot.IsReference) ↔ ∀ slot ∈ found, ¬ slot.IsReference := by
  cases expected with
  | none => exact iff_of_true nofun covers
  | some slot =>
      simp only [Option.mem_some_iff, forall_eq']
      exact ⟨covers.not_isReference, covers.not_isReference_of_covered⟩

/-- What covers a slot covers all that the slot covers. Where the slot is absent, it stands for the
wildcard. -/
theorem Covers.trans {slot : Segment} {found covered : Option Segment} (first : slot.Covers found)
    (second : (found.getD wildcard).Covers covered) : slot.Covers covered := by
  cases slot with
  | literal | reference =>
      cases first
      exact second
  | wildcard =>
      cases found with
      | none => exact second
      | some found => exact second.not_isReference (first found rfl)

end Segment

namespace Node

section Inversion

variable {p q a b v w s t : Segment} {r e : Option Segment}

/-- Projects are covered slot by slot. -/
theorem covers_project_iff : (project p).Covers (project q) ↔ p.Covers (some q) := by
  constructor
  · intro covers
    cases covers with
    | project project => exact project
  · exact .project

/-- APIs are covered slot by slot. -/
theorem covers_api_iff :
    (api p a).Covers (api q b) ↔ p.Covers (some q) ∧ a.Covers (some b) := by
  constructor
  · intro covers
    cases covers with
    | api project api => exact ⟨project, api⟩
  · intro slots
    obtain ⟨project, api⟩ := slots
    exact .api project api

/-- Versions are covered slot by slot. -/
theorem covers_version_iff :
    (version p a v).Covers (version q b w) ↔
      p.Covers (some q) ∧ a.Covers (some b) ∧ v.Covers (some w) := by
  constructor
  · intro covers
    cases covers with
    | version project api version => exact ⟨project, api, version⟩
  · intro slots
    obtain ⟨project, api, version⟩ := slots
    exact .version project api version

/-- Specs are covered slot by slot, and a revision that is left out covers any. -/
theorem covers_spec_iff :
    (spec p a v s r).Covers (spec q b w t e) ↔
      p.Covers (some q) ∧ a.Covers (some b) ∧ v.Covers (some w) ∧ s.Covers (some t) ∧
        (r.getD .wildcard).Covers e := by
  constructor
  · intro covers
    cases covers with
    | spec project api version spec revision => exact ⟨project, api, version, spec, revision⟩
  · intro slots
    obtain ⟨project, api, version, spec, revision⟩ := slots
    exact .spec project api version spec revision

/-- Deployments are covered slot by slot, and a revision that is left out covers any. -/
theorem covers_deployment_iff :
    (deployment p a s r).Covers (deployment q b t e) ↔
      p.Covers (some q) ∧ a.Covers (some b) ∧ s.Covers (some t) ∧
        (r.getD .wildcard).Covers e := by
  constructor
  · intro covers
    cases covers with
    | deployment project api deployment revision => exact ⟨project, api, deployment, revision⟩
  · intro slots
    obtain ⟨project, api, deployment, revision⟩ := slots
    exact .deployment project api deployment revision

end Inversion

end Node

namespace Node.Covers

variable {node covered : Node Segment}

/-- The lineages of nodes that cover each other cover each other, node by node. -/
theorem lineage (covers : node.Covers covered) :
    List.Forall₂ Node.Covers node.lineage covered.lineage := by
  cases covers with
  | project p => exact .cons (.project p) .nil
  | api p a => exact .cons (.api p a) (.cons (.project p) .nil)
  | version p a v => exact .cons (.version p a v) (.cons (.api p a) (.cons (.project p) .nil))
  | spec p a v s r =>
      exact .cons (.spec p a v s r)
        (.cons (.version p a v) (.cons (.api p a) (.cons (.project p) .nil)))
  | deployment p a d r =>
      exact .cons (.deployment p a d r) (.cons (.api p a) (.cons (.project p) .nil))

/-- A node covers nodes of its kind only. -/
theorem kind_eq (covers : node.Covers covered) : covered.kind = node.kind := by
  cases covers <;> rfl

/-- The places of a node cover those of what it covers. -/
theorem places (covers : node.Covers covered) :
    List.Forall₂ (fun expected found : Option Segment => (expected.getD .wildcard).Covers found)
      node.places covered.places := by
  cases covers with
  | project p => exact .cons p .nil
  | api p a => exact .cons p (.cons a .nil)
  | version p a v => exact .cons p (.cons a (.cons v .nil))
  | spec p a v s r => exact .cons p (.cons a (.cons v (.cons s (.cons r .nil))))
  | deployment p a d r => exact .cons p (.cons a (.cons d (.cons r .nil)))

/-- Covering is transitive. -/
theorem trans {middle : Node Segment} (first : node.Covers middle)
    (second : middle.Covers covered) : node.Covers covered := by
  cases first with
  | project p =>
      cases second with
      | project q => exact .project (p.trans q)
  | api p a =>
      cases second with
      | api q b => exact .api (p.trans q) (a.trans b)
  | version p a v =>
      cases second with
      | version q b w => exact .version (p.trans q) (a.trans b) (v.trans w)
  | spec p a v s r =>
      cases second with
      | spec q b w t e =>
          exact .spec (p.trans q) (a.trans b) (v.trans w) (s.trans t) (r.trans e)
  | deployment p a d r =>
      cases second with
      | deployment q b t e => exact .deployment (p.trans q) (a.trans b) (d.trans t) (r.trans e)

end Node.Covers

namespace Resource.Covers

variable {pattern covered : Pattern}

/-- An address covers addresses of its kind only. -/
theorem kind_eq (covers : pattern.Covers covered) : covered.kind = pattern.kind := by
  obtain ⟨node, artifact⟩ := pattern
  obtain ⟨other, found⟩ := covered
  cases covers.artifact with
  | none => exact covers.node.kind_eq
  | some => rfl

/-- The lineages of addresses that cover each other cover each other, one by one. -/
theorem lineage (covers : pattern.Covers covered) :
    List.Forall₂ Resource.Covers pattern.lineage covered.lineage := by
  obtain ⟨node, artifact⟩ := pattern
  obtain ⟨other, found⟩ := covered
  have nodes : List.Forall₂ Resource.Covers (node.lineage.map fun node => { node })
      (other.lineage.map fun node => { node }) :=
    List.forall₂_map_left_iff.mpr (List.forall₂_map_right_iff.mpr
      (covers.node.lineage.imp fun _ _ above => ⟨above, .none⟩))
  cases covers.artifact with
  | none => exact nodes
  | some slot => exact .cons ⟨covers.node, .some slot⟩ nodes

/-- On the way up from a pattern and from a covered one, the same kinds are found, and what is found
above the pattern covers what is found above the covered one. -/
theorem rel_ancestor? (covers : pattern.Covers covered) (kind : Kind) :
    Option.Rel Resource.Covers (pattern.ancestor? kind) (covered.ancestor? kind) := by
  have ofKind : List.Forall₂ Resource.Covers (pattern.lineage.filter fun above => above.kind = kind)
      (covered.lineage.filter fun above => above.kind = kind) := by
    refine List.rel_filter (fun above other related => ?_) covers.lineage
    simp only [decide_eq_true_eq, related.kind_eq]
  rw [Resource.ancestor?, Resource.ancestor?, ← List.head?_filter, ← List.head?_filter]
  generalize pattern.lineage.filter _ = left at ofKind ⊢
  generalize covered.lineage.filter _ = right at ofKind ⊢
  cases ofKind with
  | nil => exact .none
  | cons related _ => exact .some related

/-- An ancestor of a pattern covers the ancestor of the same kind of what the pattern covers. -/
theorem ancestor? (covers : pattern.Covers covered) {kind : Kind} {above : Pattern}
    (found : pattern.ancestor? kind = some above) :
    ∃ other, covered.ancestor? kind = some other ∧ above.Covers other := by
  have related := covers.rel_ancestor? kind
  rw [found] at related
  generalize covered.ancestor? kind = other at related ⊢
  cases related with
  | some covers => exact ⟨_, rfl, covers⟩

/-- The places of an address cover those of what it covers. -/
theorem places (covers : pattern.Covers covered) :
    List.Forall₂ (fun expected found : Option Segment => (expected.getD .wildcard).Covers found)
      pattern.places covered.places := by
  obtain ⟨node, artifact⟩ := pattern
  obtain ⟨other, found⟩ := covered
  refine List.rel_append covers.node.places (.cons ?_ .nil)
  cases covers.artifact with
  | none => exact nofun
  | some slot => exact slot

/-- A pattern has a reference just when what it covers has one. -/
theorem hasReference_iff (covers : pattern.Covers covered) :
    covered.HasReference ↔ pattern.HasReference := by
  have free : (∀ slot ∈ pattern.slots, ¬ slot.IsReference) ↔
      ∀ slot ∈ covered.slots, ¬ slot.IsReference := by
    have places := covers.places
    rw [forall_slots_iff, forall_slots_iff]
    generalize pattern.places = expected at places ⊢
    generalize covered.places = found at places ⊢
    induction places with
    | nil => exact iff_of_true nofun nofun
    | cons place _ ih =>
        rw [List.forall_mem_cons, List.forall_mem_cons]
        exact and_congr (Segment.free_iff_of_covers place) ih
  rw [← not_iff_not]
  simpa only [HasReference, not_exists, not_and] using free.symm

/-- A pattern covers what is covered by a pattern that it covers. -/
theorem trans {middle : Pattern} (first : pattern.Covers middle)
    (second : middle.Covers covered) : pattern.Covers covered := by
  obtain ⟨node, artifact⟩ := pattern
  obtain ⟨_, between⟩ := middle
  obtain ⟨_, found⟩ := covered
  refine ⟨first.node.trans second.node, ?_⟩
  have firstArtifact := first.artifact
  have secondArtifact := second.artifact
  cases firstArtifact with
  | none => exact secondArtifact
  | some slot =>
      cases secondArtifact with
      | some other => exact .some (slot.trans other)

end Resource.Covers

section Matching

/-- A comparison succeeds when its slot covers the identifier as a literal. -/
theorem Comparison.succeeds_iff {place : Place} {expected : Segment} {found : Option Identifier} :
    Succeeds ⟨place, expected, found⟩ ↔ expected.Covers (found.map .literal) :=
  Segment.accepts_iff_covers

/-- The comparison of a revision succeeds when the revision covers the other. -/
theorem revisionComparison_succeeds_iff {expected : Option Segment} {found : Option Identifier} :
    (∀ comparison ∈ revisionComparison expected found, comparison.Succeeds) ↔
      (expected.getD .wildcard).Covers (found.map .literal) := by
  cases expected with
  | none => exact iff_of_true nofun (Segment.accepts_iff_covers.mp trivial)
  | some expected =>
      rw [revisionComparison, List.forall_mem_singleton, Comparison.succeeds_iff, Option.getD_some]

/-- Only nodes of one kind are compared. -/
theorem Node.kind_eq_of_comparisons {node : Node Segment} {found : Node Identifier}
    {comparisons : List Comparison} (related : node.comparisons? found = some comparisons) :
    found.kind = node.kind := by
  cases node with
  | project =>
      cases found with
      | project => rfl
      | _ => cases related
  | api =>
      cases found with
      | api => rfl
      | _ => cases related
  | version =>
      cases found with
      | version => rfl
      | _ => cases related
  | spec =>
      cases found with
      | spec => rfl
      | _ => cases related
  | deployment =>
      cases found with
      | deployment => rfl
      | _ => cases related

/-- A node covers a name's node when their projects match and all other comparisons succeed. -/
theorem Node.covers_iff_comparisons {node : Node Segment} {found : Node Identifier} :
    node.Covers (found.map .literal) ↔
      Comparison.Succeeds ⟨.project, node.projectSlot, some found.projectSlot⟩ ∧
        ∃ comparisons, node.comparisons? found = some comparisons ∧
          ∀ comparison ∈ comparisons, comparison.Succeeds := by
  by_cases same : found.kind = node.kind
  · cases node with
    | project =>
        cases found with
        | project =>
            simp only [map, covers_project_iff, comparisons?, projectSlot, Comparison.succeeds_iff,
              Option.map_some, Option.some.injEq, exists_eq_left', List.not_mem_nil, false_imp_iff,
              implies_true, and_true]
        | _ => cases same
    | api =>
        cases found with
        | api =>
            simp only [map, covers_api_iff, comparisons?, projectSlot, Comparison.succeeds_iff,
              Option.map_some, Option.some.injEq, exists_eq_left', List.forall_mem_singleton]
        | _ => cases same
    | version =>
        cases found with
        | version =>
            simp only [map, covers_version_iff, comparisons?, projectSlot, Comparison.succeeds_iff,
              Option.map_some, Option.some.injEq, exists_eq_left', List.forall_mem_cons,
              List.not_mem_nil, false_imp_iff, implies_true, and_true]
        | _ => cases same
    | spec =>
        cases found with
        | spec =>
            simp only [map, covers_spec_iff, comparisons?, projectSlot, Comparison.succeeds_iff,
              Option.map_some, Option.some.injEq, exists_eq_left', List.forall_mem_append,
              revisionComparison_succeeds_iff, List.forall_mem_cons, List.not_mem_nil,
              false_imp_iff, implies_true, and_true, and_assoc]
        | _ => cases same
    | deployment =>
        cases found with
        | deployment =>
            simp only [map, covers_deployment_iff, comparisons?, projectSlot,
              Comparison.succeeds_iff, Option.map_some, Option.some.injEq, exists_eq_left',
              List.forall_mem_append, revisionComparison_succeeds_iff, List.forall_mem_cons,
              List.not_mem_nil, false_imp_iff, implies_true, and_true, and_assoc]
        | _ => cases same
  · apply iff_of_false
    · intro covers
      rw [← covers.kind_eq, kind_map] at same
      exact same rfl
    · intro compared
      obtain ⟨-, comparisons, related, -⟩ := compared
      exact same (kind_eq_of_comparisons related)

/-- A pattern covers a name when their projects match and all other comparisons succeed. -/
theorem Resource.covers_iff_comparisons {pattern : Pattern} {name : Name} :
    pattern.Covers name.toPattern ↔
      (projectComparison pattern name).Succeeds ∧
        ∃ comparisons, comparisons? pattern name = some comparisons ∧
          ∀ comparison ∈ comparisons, comparison.Succeeds := by
  obtain ⟨node, artifact⟩ := pattern
  obtain ⟨found, identifier⟩ := name
  have nodes := @Node.covers_iff_comparisons node found
  cases artifact with
  | none =>
      cases identifier with
      | none => exact ⟨fun covers => nodes.mp covers.node, fun all => ⟨nodes.mpr all, .none⟩⟩
      | some identifier =>
          apply iff_of_false
          · rintro ⟨-, ⟨⟩⟩
          · rintro ⟨-, _, ⟨⟩, -⟩
  | some slot =>
      cases identifier with
      | none =>
          apply iff_of_false
          · rintro ⟨-, ⟨⟩⟩
          · rintro ⟨-, _, ⟨⟩, -⟩
      | some identifier =>
          constructor
          · intro covers
            obtain ⟨project, comparisons, related, all⟩ := nodes.mp covers.node
            refine ⟨project, comparisons ++ [⟨.artifact, slot, some identifier⟩], ?_, ?_⟩
            · simp only [comparisons?, related, Option.map_some]
            · cases covers.artifact with
              | some literal =>
                  rw [List.forall_mem_append, List.forall_mem_singleton]
                  exact ⟨all, Segment.accepts_iff_covers.mpr literal⟩
          · intro compared
            obtain ⟨project, comparisons, related, all⟩ := compared
            obtain ⟨others, nodesRelated, rfl⟩ := Option.map_eq_some_iff.mp related
            rw [List.forall_mem_append, List.forall_mem_singleton] at all
            exact ⟨nodes.mpr ⟨project, others, nodesRelated, all.1⟩,
              .some (Segment.accepts_iff_covers.mp all.2)⟩

/-- What is required is that every comparison succeeds. -/
theorem require_eq_ok_iff {pattern : Pattern} {name : Name} {comparisons : List Comparison}
    {done : Unit} :
    require pattern name comparisons = .ok done ↔
      ∀ comparison ∈ comparisons, comparison.Succeeds := by
  unfold require
  cases found : comparisons.find? fun comparison => ¬ comparison.Succeeds with
  | none =>
      simpa only [List.find?_eq_none, decide_not, Bool.not_eq_true', decide_eq_false_iff_not,
        not_not, true_iff] using found
  | some failed =>
      apply iff_of_false nofun
      intro all
      have fails := List.find?_some found
      simp only [decide_not, Bool.not_eq_true', decide_eq_false_iff_not] at fails
      exact fails (all failed (List.mem_of_find?_eq_some found))

/-- A pattern matches exactly the names that it covers. -/
theorem matchPattern_eq_ok_iff {pattern : Pattern} {name : Name} {done : Unit} :
    matchPattern pattern name = .ok done ↔ pattern.Covers name.toPattern := by
  rw [matchPattern, bind_eq_ok_iff, Resource.covers_iff_comparisons]
  simp only [require_eq_ok_iff, List.forall_mem_singleton, exists_const]
  apply and_congr_right
  intro _
  cases comparisons? pattern name with
  | none =>
      apply iff_of_false nofun
      rintro ⟨_, ⟨⟩, -⟩
  | some comparisons => simp only [require_eq_ok_iff, Option.some.injEq, exists_eq_left']

/-- A target matches the names that its pattern covers. -/
theorem matchTarget_eq_ok_iff {selector : Selector} {name : Name} {project : String} {done : Unit} :
    matchTarget selector name project = .ok done ↔
      ∃ target, Pattern.parse (project ++ "/" ++ selector.pattern) = .ok target ∧
        target.Covers name.toPattern := by
  rw [matchTarget, bind_eq_ok_iff]
  simp only [mapError_eq_ok_iff, matchPattern_eq_ok_iff]

end Matching

end ScoringRules
