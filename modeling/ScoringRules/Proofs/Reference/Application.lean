import ScoringRules.Proofs.Resource.Spelling
import ScoringRules.Validation.Definition

/-!
# Applying patterns to targets

A pattern that leads with a reference is the token of a level with a remainder, and what it stands
for is the ancestor at that level with the same remainder. Both the validation of a pattern and its
substitution are described in these terms.

- `Applies` says what a pattern stands for relative to a target
- `applyToTarget_eq_ok_iff` identifies it with what validation computes
- `resolve_eq_ok_iff` says which resource a pattern refers to
- `Refers.substitute_eq_ok_iff` does the same for substitution
-/

namespace ScoringRules

/-- Whether the first word of a pattern refers to a level. The remainder of the pattern is empty, or
goes on with further words. -/
structure Refers (pattern : String) (level : Level) (remainder : String) : Prop where
  leads : Text.firstWord '/' pattern = level.token
  split : pattern = level.token ++ remainder

/-- Whether `applied` is what `pattern` stands for relative to `target`: the ancestor at the level
that the pattern refers to, followed by the remainder, with no reference left. -/
def Applies (target : Pattern) (pattern : String) (applied : Pattern) : Prop :=
  ∃ level remainder ancestor, Refers pattern level remainder ∧
    target.ancestor? level.kind = some ancestor ∧
    Pattern.parse (ancestor.text ++ remainder) = .ok applied ∧ ¬ applied.HasReference

section Levels

variable {pattern remainder : String} {level : Level}

/-- The token of a level starts a reference. -/
theorem startsReference_token (level : Level) : StartsReference level.token := by
  cases level <;> decide

/-- A level is found when the first word that is to be read as a reference is its token, and none
when there is no such word. -/
theorem referencedLevel_eq_ok_iff {found : Option Level} :
    referencedLevel pattern = .ok found ↔ referenceWord? pattern = found.map Level.token := by
  rw [referencedLevel]
  cases referenceWord? pattern with
  | none =>
      cases found with
      | none => exact iff_of_true rfl rfl
      | some level => exact iff_of_false nofun nofun
  | some word =>
      cases found with
      | none => cases read : Level.read word <;> simp only [read, Except.ok.injEq, reduceCtorEq,
          Option.map_none]
      | some level =>
          rw [Option.map_some, Option.some.injEq, ← Level.read_eq_ok_iff]
          cases read : Level.read word <;> simp only [read, Except.ok.injEq, Option.some.injEq,
            reduceCtorEq]

/-- In a pattern that leads with a reference, the first word is the reference. -/
theorem referenceWord?_of_leads (leads : LeadsWithReference pattern) :
    referenceWord? pattern = some (Text.firstWord '/' pattern) :=
  List.find?_cons_of_pos (decide_eq_true leads)

/-- The level that a pattern refers to is read from its first word, if that is to be read as a
reference. -/
theorem referencedLevel_of_leads (leads : LeadsWithReference pattern) :
    referencedLevel pattern = .ok (some level) ↔ Text.firstWord '/' pattern = level.token := by
  rw [referencedLevel_eq_ok_iff, referenceWord?_of_leads leads, Option.map_some, Option.some.injEq]

/-- A pattern that leads with a reference has one. -/
theorem referencedLevel_ne_none (leads : LeadsWithReference pattern) :
    referencedLevel pattern ≠ .ok none := by
  rw [ne_eq, referencedLevel_eq_ok_iff, referenceWord?_of_leads leads]
  exact nofun

/-- A pattern without a dollar sign has no reference. -/
theorem referencedLevel_of_dollar_not_mem
    (free : ∀ word ∈ Text.words '/' pattern, '$' ∉ word.toList) :
    referencedLevel pattern = .ok none := by
  rw [referencedLevel_eq_ok_iff, Option.map_none, referenceWord?, List.find?_eq_none]
  intro word member
  rw [decide_eq_true_eq]
  exact fun starts => free word member (starts.subset (by decide))

/-- A pattern that starts with a token refers to its level. -/
theorem exists_refers (leads : Text.firstWord '/' pattern = level.token) :
    ∃ remainder, Refers pattern level remainder := by
  rcases Text.firstWord_cases pattern with alone | ⟨later, followed⟩
  · exact ⟨"", leads, by rw [String.append_empty, ← leads, ← alone]⟩
  · exact ⟨"/" ++ later, leads, by rw [← leads, ← String.append_assoc, ← followed]⟩

namespace Refers

/-- A remainder is empty or sets further words apart. -/
theorem remainder_cases (refers : Refers pattern level remainder) :
    remainder = "" ∨ ∃ later, remainder = "/" ++ later := by
  have split := refers.split
  rcases Text.firstWord_cases pattern with alone | ⟨later, followed⟩
  · refine Or.inl ((String.append_right_inj level.token).mp ?_)
    rw [String.append_empty, ← split, alone, refers.leads]
  · rw [followed, refers.leads, String.append_assoc, String.append_right_inj] at split
    exact Or.inr ⟨later, split.symm⟩

/-- A pattern that refers to a level leads with a reference. -/
theorem leadsWithReference (refers : Refers pattern level remainder) :
    LeadsWithReference pattern := by
  rw [LeadsWithReference, refers.leads]
  exact startsReference_token level

/-- A pattern that refers to a level has that level referenced. -/
theorem referencedLevel_eq (refers : Refers pattern level remainder) :
    referencedLevel pattern = .ok (some level) :=
  (referencedLevel_of_leads refers.leadsWithReference).mpr refers.leads

end Refers

end Levels

section Substituting

variable {S : Type} [Slot S] {target : Resource S} {pattern remainder text : String} {level : Level}

/-- A level resolves to the ancestor of its kind. -/
theorem resolveLevel_eq_ok_iff {ancestor : Resource S} :
    resolveLevel pattern target level = .ok ancestor ↔
      target.ancestor? level.kind = some ancestor := by
  unfold resolveLevel
  cases target.ancestor? level.kind with
  | none => exact iff_of_false nofun nofun
  | some found => simp only [Except.ok.injEq, Option.some.injEq]

/-- The resource that a pattern refers to by the level it names, or by naming none. -/
def Resource.referent? (target : Resource S) : Option Level → Option (Resource S)
  | none => some target
  | some level => target.ancestor? level.kind

/-- Resolving succeeds when the pattern names no level, or one that the target has. -/
theorem resolve_eq_ok_iff {entity : Resource S} :
    resolve pattern target = .ok entity ↔
      ∃ named, referencedLevel pattern = .ok named ∧ target.referent? named = some entity := by
  rw [resolve, bind_eq_ok_iff]
  refine exists_congr fun named => ?_
  rw [mapError_eq_ok_iff]
  apply and_congr_right
  intro _
  cases named with
  | none => simp only [Except.ok.injEq, Resource.referent?, Option.some.injEq]
  | some level => exact resolveLevel_eq_ok_iff

/-- Substitution puts the text of the ancestor in front of the remainder. -/
theorem Refers.substitute_eq_ok_iff (refers : Refers pattern level remainder) :
    substitute pattern target = .ok text ↔
      ∃ ancestor, target.ancestor? level.kind = some ancestor ∧
        text = ancestor.text ++ remainder := by
  have replaced (new : String) : Text.replaceFirst level.token new pattern = new ++ remainder := by
    rw [refers.split, Text.replaceFirst, String.toList_append, Text.replaceFirstChars_append,
      ← String.toList_append, String.ofList_toList]
  rw [substitute, refers.referencedLevel_eq]
  change (resolveLevel pattern target level >>= fun ancestor =>
    .ok (Text.replaceFirst level.token ancestor.text pattern)) = _ ↔ _
  rw [bind_eq_ok_iff]
  simp only [resolveLevel_eq_ok_iff, replaced, Except.ok.injEq, eq_comm (a := text)]

/-- A text without a dollar sign is left as it is. -/
theorem substitute_of_dollar_not_mem (target : Resource S)
    (free : ∀ word ∈ Text.words '/' text, '$' ∉ word.toList) :
    substitute text target = .ok text := by
  rw [substitute, referencedLevel_of_dollar_not_mem free]
  rfl

end Substituting

/-- Validation computes what a pattern stands for. -/
theorem applyToTarget_eq_ok_iff {target applied : Pattern} {pattern : String} :
    applyToTarget target pattern = .ok applied ↔ Applies target pattern applied := by
  have judged (resolved : String) :
      (do
        let applied ← (Pattern.parse resolved).mapError ValidationError.parse
        if applied.HasReference then .error (.reference (.unsubstituted pattern))
        else .ok applied) = .ok applied ↔
      Pattern.parse resolved = .ok applied ∧ ¬ applied.HasReference := by
    rw [bind_eq_ok_iff]
    simp only [mapError_eq_ok_iff, rejection_eq_ok_iff]
    constructor
    · intro accepted
      obtain ⟨found, read, free, rfl⟩ := accepted
      exact ⟨read, free⟩
    · intro conditions
      obtain ⟨read, free⟩ := conditions
      exact ⟨applied, read, free, rfl⟩
  constructor
  · intro accepted
    obtain ⟨named, read, accepted⟩ := bind_eq_ok_iff.mp accepted
    cases named with
    | none => cases accepted
    | some level =>
        simp only at accepted
        split at accepted
        · next leads =>
            obtain ⟨resolved, substituted, accepted⟩ := bind_eq_ok_iff.mp accepted
            obtain ⟨remainder, refers⟩ := exists_refers
              ((referencedLevel_of_leads leads).mp (mapError_eq_ok_iff.mp read))
            obtain ⟨ancestor, found, rfl⟩ :=
              refers.substitute_eq_ok_iff.mp (mapError_eq_ok_iff.mp substituted)
            obtain ⟨read, free⟩ := (judged _).mp accepted
            exact ⟨level, remainder, ancestor, refers, found, read, free⟩
        · cases accepted
  · intro applies
    obtain ⟨level, remainder, ancestor, refers, found, read, free⟩ := applies
    refine bind_eq_ok_iff.mpr
      ⟨some level, mapError_eq_ok_iff.mpr refers.referencedLevel_eq, ?_⟩
    simp only [refers.leadsWithReference, ↓reduceIte]
    exact bind_eq_ok_iff.mpr ⟨ancestor.text ++ remainder,
      mapError_eq_ok_iff.mpr (refers.substitute_eq_ok_iff.mpr ⟨ancestor, found, rfl⟩),
      (judged _).mpr ⟨read, free⟩⟩

end ScoringRules
