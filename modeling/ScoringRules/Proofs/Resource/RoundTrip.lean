import ScoringRules.Proofs.Resource.Lineage
import ScoringRules.Resource.Parse

/-!
# Writing and reading addresses

An address is well-formed when each of its slots is what some word is read as, and no artifact hangs
on an artifact. Reading gives nothing else, whatever the slots are, and going up keeps it. For names
and patterns reading takes back what was written, as a text and in a document, so the canonical text
identifies an address.

- `Resource.WellFormed` is the condition
- `Progress.readable_of_extend` and `Progress.readable_of_run` show that reading establishes it
- `Resource.text_injective` says that the canonical text identifies an address
- `writing_then_reading` collects the laws, for names and patterns
-/

namespace ScoringRules

section Reading

variable {S : Type} [Slot S]

/-- Whether a slot is what some word is read as. -/
def IsReadable (slot : S) : Prop := ∃ word, Slot.read word = .ok slot

/-- A slot that is read is readable. -/
theorem isReadable_of_readSlot {word : String} {slot : S} (read : readSlot word = .ok slot) :
    IsReadable slot :=
  ⟨word, mapError_eq_ok_iff.mp read⟩

/-- A slot and a revision that are read are readable. -/
theorem isReadable_of_readRevised {word : String} {slot : S} {revision : Option S}
    (read : readRevised word = .ok (slot, revision)) :
    IsReadable slot ∧ ∀ other ∈ revision.toList, IsReadable other := by
  unfold readRevised at read
  split at read
  · obtain ⟨_, first, ⟨⟩⟩ := bind_eq_ok_iff.mp read
    exact ⟨isReadable_of_readSlot first, nofun⟩
  · obtain ⟨_, first, read⟩ := bind_eq_ok_iff.mp read
    obtain ⟨_, second, ⟨⟩⟩ := bind_eq_ok_iff.mp read
    refine ⟨isReadable_of_readSlot first, ?_⟩
    rw [Option.toList_some, List.forall_mem_singleton]
    exact isReadable_of_readSlot second

namespace Progress

/-- The slots that have been read so far. -/
def slots : Progress S → List S
  | nothing => []
  | upTo resource _ => resource.slots

variable {progress next : Progress S}

/-- A step adds slots that it reads. -/
theorem slots_of_extend {collection : Collection} {word : String}
    (accepted : progress.extend collection word = .ok next) :
    ∃ added, next.slots = progress.slots ++ added ∧ ∀ slot ∈ added, IsReadable slot := by
  unfold extend at accepted
  split at accepted
  · obtain ⟨slot, read, ⟨⟩⟩ := bind_eq_ok_iff.mp accepted
    exact ⟨[slot], rfl, List.forall_mem_singleton.mpr (isReadable_of_readSlot read)⟩
  · split at accepted
    · cases accepted
      exact ⟨[], rfl, nofun⟩
    · cases accepted
  · obtain ⟨slot, read, ⟨⟩⟩ := bind_eq_ok_iff.mp accepted
    exact ⟨[slot], rfl, List.forall_mem_singleton.mpr (isReadable_of_readSlot read)⟩
  · obtain ⟨slot, read, ⟨⟩⟩ := bind_eq_ok_iff.mp accepted
    exact ⟨[slot], rfl, List.forall_mem_singleton.mpr (isReadable_of_readSlot read)⟩
  · obtain ⟨⟨slot, revision⟩, read, ⟨⟩⟩ := bind_eq_ok_iff.mp accepted
    refine ⟨slot :: revision.toList, ?_, List.forall_mem_cons.mpr (isReadable_of_readRevised read)⟩
    simp [slots, Resource.slots, Node.slots]
  · obtain ⟨⟨slot, revision⟩, read, ⟨⟩⟩ := bind_eq_ok_iff.mp accepted
    refine ⟨slot :: revision.toList, ?_, List.forall_mem_cons.mpr (isReadable_of_readRevised read)⟩
    simp [slots, Resource.slots, Node.slots]
  · obtain ⟨slot, read, ⟨⟩⟩ := bind_eq_ok_iff.mp accepted
    refine ⟨[slot], ?_, List.forall_mem_singleton.mpr (isReadable_of_readSlot read)⟩
    simp [slots, Resource.slots]
  · cases accepted

/-- A step that is read keeps all slots readable. -/
theorem readable_of_extend {collection : Collection} {word : String}
    (readable : ∀ slot ∈ progress.slots, IsReadable slot)
    (accepted : progress.extend collection word = .ok next) :
    ∀ slot ∈ next.slots, IsReadable slot := by
  obtain ⟨added, all, addedReadable⟩ := slots_of_extend accepted
  rw [all, List.forall_mem_append]
  exact ⟨readable, addedReadable⟩

/-- Steps that are read keep all slots readable. -/
theorem readable_of_run {steps : List (String × String)}
    (accepted : steps.foldlM advance progress = .ok next)
    (readable : ∀ slot ∈ progress.slots, IsReadable slot) :
    ∀ slot ∈ next.slots, IsReadable slot :=
  run_keeps (fun reached => ∀ slot ∈ reached.slots, IsReadable slot) readable_of_extend accepted
    readable

end Progress

namespace Resource

/-- Whether each slot of an address is what some word is read as, and no artifact hangs on an
artifact. -/
structure WellFormed (resource : Resource S) : Prop where
  readable : ∀ slot ∈ resource.slots, IsReadable slot
  flat : resource.kind = .artifact → ∀ above ∈ resource.parent?, above.kind ≠ .artifact

variable {resource above : Resource S}

omit [Slot S] in
/-- No parent is an artifact. -/
theorem kind_of_parent? (found : resource.parent? = some above) : above.kind ≠ .artifact := by
  obtain ⟨node, artifact⟩ := resource
  cases node <;> cases artifact <;> cases found <;> exact nofun

/-- An address whose slots are readable is well-formed. -/
theorem WellFormed.of_readable (readable : ∀ slot ∈ resource.slots, IsReadable slot) :
    resource.WellFormed :=
  ⟨readable, fun _ _ => kind_of_parent?⟩

/-- Going up keeps an address well-formed. -/
theorem WellFormed.of_mem_lineage (wellFormed : resource.WellFormed)
    (member : above ∈ resource.lineage) : above.WellFormed := by
  have fewer : above.slots <+: resource.slots := slots_prefix_of_mem_lineage member
  exact .of_readable fun slot inside => wellFormed.readable slot (fewer.subset inside)

/-- An address that is read is well-formed. -/
theorem wellFormed_of_parse {text : String} (accepted : Resource.parse text = .ok resource) :
    resource.WellFormed := by
  obtain ⟨steps, located, -, run⟩ := parse_eq_ok_iff_run.mp accepted
  have start : ∀ slot ∈ (Progress.nothing : Progress S).slots, IsReadable slot := nofun
  exact .of_readable (Progress.readable_of_run run start)

/-- Whether addresses are well-formed when they are read, and stay so on the way up. -/
structure KeepsWellFormed (S : Type) [Slot S] : Prop where
  parsed : ∀ (text : String) (resource : Resource S),
    Resource.parse text = .ok resource → resource.WellFormed
  parent : ∀ resource above : Resource S,
    resource.WellFormed → resource.parent? = some above → above.WellFormed
  ancestor : ∀ (resource : Resource S) (kind : Kind) (above : Resource S),
    resource.WellFormed → resource.ancestor? kind = some above → above.WellFormed

/-- Whether well-formed addresses are read back as they were written, so that the canonical text
identifies an address. -/
structure RoundTrips (S : Type) [Slot S] : Prop where
  reparsed : ∀ resource : Resource S,
    resource.WellFormed → Resource.parse resource.text = .ok resource
  decoded : ∀ resource : Resource S,
    resource.WellFormed → Codec.decode? (Codec.encode resource) = some resource
  identified : ∀ (text otherText : String) (resource other : Resource S),
    Resource.parse text = .ok resource → Resource.parse otherText = .ok other →
      (resource = other ↔ resource.text = other.text)

/-- Parents and ancestors of well-formed addresses are well-formed. -/
theorem keepsWellFormed (S : Type) [Slot S] : KeepsWellFormed S where
  parsed _ _ := wellFormed_of_parse
  parent _ _ wellFormed found := wellFormed.of_mem_lineage (mem_lineage_of_parent? found)
  ancestor _ _ _ wellFormed found := wellFormed.of_mem_lineage (mem_lineage_of_ancestor? found)

/-- An address is read back from its document. -/
theorem decode_encode [LawfulSlot S] (resource : Resource S) :
    Codec.decode? (Codec.encode resource) = some resource := by
  change (Resource.parse resource.text).toOption = some resource
  rw [parse_text]
  rfl

/-- Addresses with the same text are equal. -/
theorem text_injective [LawfulSlot S] {resource other : Resource S}
    (same : resource.text = other.text) : resource = other := by
  have read : Resource.parse other.text = .ok resource := same ▸ parse_text resource
  exact Except.ok.inj (read.symm.trans (parse_text other))

/-- Addresses with lawful slots make the round trip. -/
theorem RoundTrips.of_lawful [LawfulSlot S] : RoundTrips S where
  reparsed resource _ := parse_text resource
  decoded resource _ := decode_encode resource
  identified _ _ _ _ _ _ := ⟨congrArg text, text_injective⟩

end Resource

end Reading

/-- **What is written is read back.** Whatever fills the slots, reading gives well-formed addresses
and going up keeps them so. Names and patterns are read back from what is written for them. -/
theorem writing_then_reading :
    (∀ (S : Type) [Slot S], Resource.KeepsWellFormed S) ∧
      Resource.RoundTrips Identifier ∧ Resource.RoundTrips Segment :=
  ⟨Resource.keepsWellFormed, .of_lawful, .of_lawful⟩

/-- The artifacts of any revision of one deployment. -/
def deploymentArtifacts : Pattern where
  node := .deployment (.literal ⟨"shop", by decide⟩) .wildcard (.literal ⟨"prod", by decide⟩)
    (some .wildcard)
  artifact? := some .wildcard

/-- The address is read from a text without the location, is well-formed, and is read back from its
canonical text and from a document. -/
theorem deployment_artifacts_read_back :
    Pattern.parse "projects/shop/apis/-/deployments/prod@-/artifacts/-" = .ok deploymentArtifacts ∧
      deploymentArtifacts.WellFormed ∧
      Pattern.parse deploymentArtifacts.text = .ok deploymentArtifacts ∧
      Codec.decode? (Codec.encode deploymentArtifacts) = some deploymentArtifacts := by
  have parsed : Pattern.parse "projects/shop/apis/-/deployments/prod@-/artifacts/-" =
      .ok deploymentArtifacts := Resource.parse_eq_ok_iff.mpr ⟨false, by decide +kernel⟩
  obtain ⟨keeps, -, patterns⟩ := writing_then_reading
  have wellFormed : deploymentArtifacts.WellFormed := (keeps Segment).parsed _ _ parsed
  exact ⟨parsed, wellFormed, patterns.reparsed _ wellFormed, patterns.decoded _ wellFormed⟩

end ScoringRules
