import ScoringRules.Proofs.Config.Loading

/-!
# Which path is loaded

The path that is asked for comes first, then the one in the environment, and then the default one.
Which of them a path came from makes no difference to what is loaded from it, nor to what a failure
says, although the length of a path from the environment is checked before the check that all paths
go through.

- `Config.loadWith_eq_of_wantedPath` says that only the path that is wanted matters
- `Config.path_preference` compares runs that differ in the path that is asked for and in the
  environment
-/

namespace ScoringRules.Config

section Wanted

variable {decode : String → Except String Config} {files : Path → Except String ByteArray}
  {environment other : Option ByteArray} {path asked : Option Path}

/-- Runs that want the same path give the same result. -/
theorem loadWith_eq_of_wantedPath (same : wantedPath environment path = wantedPath other asked) :
    loadWith decode files environment path = loadWith decode files other asked := by
  rw [loadWith_eq_loadFrom, loadWith_eq_loadFrom, same]

/-- A text is read back from its bytes. -/
theorem fromUTF8?_toUTF8 (text : String) : String.fromUTF8? text.toUTF8 = some text :=
  dif_pos text.isValidUTF8

/-- A text in the environment is wanted when nothing is asked for. -/
theorem wantedPath_of_text (text : String) :
    wantedPath (some text.toUTF8) none = wantedPath other (some (.ofText text)) := by
  rw [wantedPath, Option.bind_some, fromUTF8?_toUTF8]
  rfl

/-- The default path is wanted when nothing is asked for and no text is in the environment. -/
theorem wantedPath_of_unreadable
    (unreadable : ∀ bytes ∈ environment, String.fromUTF8? bytes = none) :
    wantedPath environment none = wantedPath other (some (.ofText defaultPath)) := by
  have unset : environment.bind String.fromUTF8? = none := Option.bind_eq_none_iff.mpr unreadable
  rw [wantedPath, unset]
  rfl

end Wanted

/-- **Paths are an order of preference.** With a path that is asked for, the environment makes no
difference. A text in the environment gives what asking for it gives, and an environment without one
gives what asking for the default path gives, whatever then holds in the environment. This is so of
configurations, of errors, and of the reasons in them, and of paths that are no texts as of
others. -/
theorem path_preference (decode : String → Except String Config)
    (files : Path → Except String ByteArray) :
    (∀ environment other path, loadWith decode files environment (some path) =
        loadWith decode files other (some path)) ∧
      (∀ path other, loadWith decode files (some path.toUTF8) none =
        loadWith decode files other (some (.ofText path))) ∧
      ∀ environment other, (∀ bytes ∈ environment, String.fromUTF8? bytes = none) →
        loadWith decode files environment none =
          loadWith decode files other (some (.ofText "catalog-scoring.toml")) := by
  refine ⟨?asked, ?inEnvironment, ?byDefault⟩
  case asked =>
    intro environment other path
    exact loadWith_eq_of_wantedPath rfl
  case inEnvironment =>
    intro path other
    exact loadWith_eq_of_wantedPath (wantedPath_of_text path)
  case byDefault =>
    intro environment other unreadable
    exact loadWith_eq_of_wantedPath (wantedPath_of_unreadable unreadable)

/-- A file system with a single file, in which a limit is zero. -/
def zeroLimitFiles (path : Path) : Except String ByteArray :=
  if path = .ofText "limits.toml" then .ok "[validation]\nmax_thresholds = 0\n".toUTF8
  else .error "no such file"

/-- The file is found by the environment as when it is asked for, with the same error. With bytes in
the environment that are no text, the default path is read, and the message tells what the file
system says. -/
theorem limits_found_by_environment :
    loadWith (decodeToml id) zeroLimitFiles (some "limits.toml".toUTF8) none =
        .error (.invalid (.zero .maxThresholds)) ∧
      String.fromUTF8? ⟨#[255]⟩ = none ∧
      (∃ error, loadWith (decodeToml id) zeroLimitFiles (some ⟨#[255]⟩) none = .error error ∧
        error.message = "config io error: no such file") ∧
      loadWith (decodeToml id) zeroLimitFiles (some ⟨#[255]⟩) (some (.ofText "limits.toml")) =
        .error (.invalid (.zero .maxThresholds)) := by
  obtain ⟨asked, inEnvironment, byDefault⟩ := path_preference (decodeToml id) zeroLimitFiles
  have found : loadWith (decodeToml id) zeroLimitFiles none (some (.ofText "limits.toml")) =
      .error (.invalid (.zero .maxThresholds)) := by
    decide +kernel
  have unreadable : String.fromUTF8? ⟨#[255]⟩ = none := by decide +kernel
  have noText : ∀ bytes ∈ some (⟨#[255]⟩ : ByteArray), String.fromUTF8? bytes = none := by
    rintro _ ⟨⟩
    exact unreadable
  refine ⟨(inEnvironment "limits.toml" none).trans found, unreadable,
    ⟨.io "no such file", ?_, rfl⟩, ?_⟩
  · rw [byDefault _ none noText]
    decide +kernel
  · rw [asked _ none, found]

end ScoringRules.Config
