import ScoringRules.Proofs.Reference.Application
import ScoringRules.Proofs.Text.Replacement

/-!
# What substitution replaces

The reference of a pattern is found among its words, while its token is looked for in the whole
text. Both lead to the same place unless an earlier word, which is no reference, contains the token
somewhere behind its start: then the token is replaced there, and the reference stays.

- `ReferenceSplit` says where the reference of a pattern stands
- `substitute_eq_error_iff` compares the failures of substitution and of resolution
- `substitution_replaces_reference_iff` says when the reference is what is replaced
-/

namespace ScoringRules

/-- Whether the first word of a pattern that is to be read as a reference is `word`, with the words
`before` in front of it and `after` behind it. -/
structure ReferenceSplit (pattern : String) (before : List String) (word : String)
    (after : List String) : Prop where
  words : Text.words '/' pattern = before ++ word :: after
  starts : StartsReference word
  first : ∀ earlier ∈ before, ¬ StartsReference earlier

section Splitting

variable {pattern word : String} {before after : List String} {level : Level}

/-- No word is to be read as a reference when none starts like one. -/
theorem referenceWord?_eq_none_iff :
    referenceWord? pattern = none ↔ ∀ word ∈ Text.words '/' pattern, ¬ StartsReference word := by
  simp only [referenceWord?, List.find?_eq_none, decide_eq_true_eq]

/-- A pattern that is split at a reference has that reference first. -/
theorem ReferenceSplit.referenceWord?_eq (split : ReferenceSplit pattern before word after) :
    referenceWord? pattern = some word := by
  have absent : before.find? (fun earlier => StartsReference earlier) = none := by
    simpa only [List.find?_eq_none, decide_eq_true_eq] using split.first
  rw [referenceWord?, split.words, List.find?_append, absent, Option.none_or]
  exact List.find?_cons_of_pos (decide_eq_true split.starts)

/-- A pattern is what its split joins to. -/
theorem ReferenceSplit.text_eq (split : ReferenceSplit pattern before word after) :
    pattern = "/".intercalate (before ++ word :: after) := by
  rw [← split.words, Text.intercalate_words]

end Splitting

section Substituting

variable {S : Type} [Slot S] {target entity : Resource S} {pattern word : String}
  {before after : List String}

/-- Substitution fails just when resolution does, and for the same reason. -/
theorem substitute_eq_error_iff {error : ReferenceError} :
    substitute pattern target = .error error ↔ resolve pattern target = .error error := by
  rw [substitute, resolve]
  cases referencedLevel pattern with
  | error malformed =>
      constructor
      · rintro ⟨⟩
        rfl
      · rintro ⟨⟩
        rfl
  | ok found =>
      cases found with
      | none =>
          constructor
          · rintro ⟨⟩
          · rintro ⟨⟩
      | some level =>
          change (resolveLevel pattern target level >>= fun ancestor =>
            .ok (Text.replaceFirst level.token ancestor.text pattern)) = _ ↔
              resolveLevel pattern target level = _
          rw [bind_eq_error_iff, or_iff_left]
          rintro ⟨_, -, ⟨⟩⟩

/-- Where a reference resolves, its word is the token that substitution looks for. -/
theorem ReferenceSplit.substitute_eq (split : ReferenceSplit pattern before word after)
    (resolved : resolve pattern target = .ok entity) :
    (∃ level : Level, word = level.token) ∧
      substitute pattern target = .ok (Text.replaceFirst word entity.text pattern) := by
  obtain ⟨found, read, resolved⟩ := resolve_eq_ok_iff.mp resolved
  have named := referencedLevel_eq_ok_iff.mp read
  rw [split.referenceWord?_eq] at named
  cases found with
  | none => cases named
  | some level =>
      obtain rfl : word = level.token := Option.some.inj named
      refine ⟨⟨level, rfl⟩, ?_⟩
      rw [substitute, read]
      exact bind_eq_ok_iff.mpr ⟨some level, rfl,
        bind_eq_ok_iff.mpr ⟨entity, resolveLevel_eq_ok_iff.mpr resolved, rfl⟩⟩

/-- **What substitution replaces.** Substitution fails just when resolution does, for the same
reason, and it leaves a pattern alone of which no word starts a reference. Where a reference
resolves, the words of the result are those of the pattern with the resource's canonical text for
the reference, exactly when no earlier word contains the token of the reference. -/
theorem substitution_replaces_reference_iff (pattern : String) (target : Resource S) :
    (∀ error, substitute pattern target = .error error ↔ resolve pattern target = .error error) ∧
      ((∀ word ∈ Text.words '/' pattern, ¬ StartsReference word) →
        substitute pattern target = .ok pattern) ∧
      ∀ before word after entity, ReferenceSplit pattern before word after →
        resolve pattern target = .ok entity →
        (substitute pattern target = .ok ("/".intercalate (before ++ entity.text :: after)) ↔
          ∀ earlier ∈ before, ¬ word.toList <:+: earlier.toList) := by
  refine ⟨fun error => substitute_eq_error_iff, ?unchanged, ?replaced⟩
  case unchanged =>
    intro plain
    have none : referencedLevel pattern = .ok none :=
      referencedLevel_eq_ok_iff.mpr (referenceWord?_eq_none_iff.mpr plain)
    rw [substitute, none]
    rfl
  case replaced =>
    intro before word after entity split resolved
    obtain ⟨⟨level, rfl⟩, substituted⟩ := split.substitute_eq resolved
    have tokenFree : '/' ∉ level.token.toList := by cases level <;> decide
    obtain ⟨_, tokenStarts⟩ : ∃ later, level.token.toList = '$' :: later := by
      cases level <;> exact ⟨_, rfl⟩
    obtain ⟨_, entityStarts⟩ := entity.text_starts
    rw [substituted, Except.ok.injEq, split.text_eq]
    exact Text.replaceFirst_intercalate_iff tokenFree tokenStarts entityStarts (by decide) before
      after

end Substituting

def petsApi : Name where
  node := .api ⟨"garden", by decide⟩ ⟨"pets", by decide⟩

/-- The reference stands behind other words, of which none contains its token. -/
theorem reference_behind_words_replaced :
    ReferenceSplit "copies/of/$resource.api/artifacts/style" ["copies", "of"] "$resource.api"
        ["artifacts", "style"] ∧
      resolve "copies/of/$resource.api/artifacts/style" petsApi = .ok petsApi ∧
      substitute "copies/of/$resource.api/artifacts/style" petsApi =
        .ok "copies/of/projects/garden/locations/global/apis/pets/artifacts/style" := by
  have split : ReferenceSplit "copies/of/$resource.api/artifacts/style" ["copies", "of"]
      "$resource.api" ["artifacts", "style"] := ⟨rfl, by decide, by decide⟩
  have resolved : resolve "copies/of/$resource.api/artifacts/style" petsApi = .ok petsApi := rfl
  have absent : ∀ earlier ∈ ["copies", "of"], ¬ "$resource.api".toList <:+: earlier.toList := by
    decide
  have replaced := (substitution_replaces_reference_iff _ petsApi).2.2 _ _ _ _ split resolved
  exact ⟨split, resolved, replaced.mpr absent⟩

/-- An earlier word contains the token, and there it is replaced. The reference stays. -/
theorem token_inside_word_replaced :
    ReferenceSplit "apis/x$resource.api/$resource.api" ["apis", "x$resource.api"]
        "$resource.api" [] ∧
      resolve "apis/x$resource.api/$resource.api" petsApi = .ok petsApi ∧
      substitute "apis/x$resource.api/$resource.api" petsApi =
        .ok "apis/xprojects/garden/locations/global/apis/pets/$resource.api" ∧
      substitute "apis/x$resource.api/$resource.api" petsApi ≠
        .ok ("/".intercalate (["apis", "x$resource.api"] ++ petsApi.text :: [])) := by
  have substituted : substitute "apis/x$resource.api/$resource.api" petsApi =
      .ok "apis/xprojects/garden/locations/global/apis/pets/$resource.api" := rfl
  refine ⟨⟨rfl, by decide, by decide⟩, rfl, substituted, ?_⟩
  rw [substituted, ne_eq, Except.ok.injEq]
  decide

end ScoringRules
