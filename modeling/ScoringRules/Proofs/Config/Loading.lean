import ScoringRules.Config.Load
import ScoringRules.Proofs.First
import ScoringRules.Proofs.Validation.Bounds

/-!
# Stages of loading

Loading a configuration goes through stages, and each stage is a condition on the files and on the
path that is wanted. A configuration is loaded when all stages pass; otherwise the first stage that
fails is reported, and the conditions of later stages do not matter.

- `Config.Stage` lists the stages in order, with what each of them requires and reports
- `Config.Judged` derives a result stage by stage, as loading does
- `loading_fails_closed` says what loading gives, and what is bounded by what it gives
-/

namespace ScoringRules

namespace Config

/-- The path that is wanted: the one that is asked for, or else the text in the environment, or else
the default one. -/
def wantedPath (environment : Option ByteArray) (path : Option Path) : Path :=
  path.getD (.ofText ((environment.bind String.fromUTF8?).getD defaultPath))

/-- No part of a path without a slash has more bytes than a component may have. -/
def Path.HasShortComponents (path : Path) : Prop :=
  ∀ run, run <:+: path.bytes → '/'.toUInt8 ∉ run → run.length ≤ 255

/-- A stage of loading; each limit is a stage of its own. -/
inductive Stage where
  | pathLength
  | componentLength
  | reading
  | fileSize
  | encoding
  | decoding
  | limit (setting : Setting)

/-- The stages in the order in which they come. -/
def Stage.order : List Stage :=
  [pathLength, componentLength, reading, fileSize, encoding, decoding] ++ Setting.all.map limit

/-- Each setting has its stage. -/
theorem Stage.limit_mem_order (setting : Setting) : limit setting ∈ order := by
  refine List.mem_append_right _ (List.mem_map_of_mem ?_)
  cases setting <;> decide

section Stages

variable (decode : String → Except String Config) (files : Path → Except String ByteArray)
  (path : Path)

/-- Whether a configuration is what the file at a path holds. -/
def Decodes (config : Config) : Prop :=
  ∃ bytes text, files path = .ok bytes ∧ String.fromUTF8? bytes = some text ∧
    decode text = .ok config

/-- What a stage requires, provided that the stages before it have passed. -/
def Stage.Passes : Stage → Prop
  | pathLength => path.bytes.length ≤ 4096
  | componentLength => path.HasShortComponents
  | reading => ∃ bytes, files path = .ok bytes
  | fileSize => ∀ bytes, files path = .ok bytes → bytes.size ≤ 65536
  | encoding => ∀ bytes, files path = .ok bytes → ∃ text, String.fromUTF8? bytes = some text
  | decoding => ∀ bytes text, files path = .ok bytes → String.fromUTF8? bytes = some text →
      ∃ config, decode text = .ok config
  | limit setting => ∀ config, Decodes decode files path config →
      1 ≤ config.validation.value setting ∧ config.validation.value setting ≤ setting.maximum

/-- What a stage that fails reports. -/
inductive Stage.Reports : Stage → ConfigError → Prop
  | pathLength : Reports pathLength (.invalid .pathTooLong)
  | componentLength : Reports componentLength (.invalid .pathComponentTooLong)
  | reading {reason : String} (unread : files path = .error reason) : Reports reading (.io reason)
  | fileSize : Reports fileSize (.invalid .fileTooLarge)
  | encoding : Reports encoding (.invalid .notUtf8)
  | decoding {bytes : ByteArray} {text reason : String} (read : files path = .ok bytes)
      (encoded : String.fromUTF8? bytes = some text) (undecoded : decode text = .error reason) :
      Reports decoding (.parse reason)
  | zero {setting : Setting} {config : Config} (decodes : Decodes decode files path config)
      (zero : config.validation.value setting = 0) :
      Reports (limit setting) (.invalid (.zero setting))
  | aboveMaximum {setting : Setting} {config : Config} (decodes : Decodes decode files path config)
      (above : setting.maximum < config.validation.value setting) :
      Reports (limit setting) (.invalid (.aboveMaximum setting))

/-- Whether stages, taken one after the other, lead to a result. -/
inductive Judged : List Stage → Except ConfigError Config → Prop
  | accepted {config : Config} (decodes : Decodes decode files path config) : Judged [] (.ok config)
  | failed {stage : Stage} {rest : List Stage} {error : ConfigError}
      (fails : ¬ stage.Passes decode files path) (reports : stage.Reports decode files path error) :
      Judged (stage :: rest) (.error error)
  | passed {stage : Stage} {rest : List Stage} {result : Except ConfigError Config}
      (passes : stage.Passes decode files path) (later : Judged rest result) :
      Judged (stage :: rest) result

end Stages

variable {decode : String → Except String Config} {files : Path → Except String ByteArray}
  {path : Path} {stages : List Stage} {config other : Config} {error : ConfigError}

/-- A file holds one configuration at most. -/
theorem Decodes.unique (first : Decodes decode files path config)
    (second : Decodes decode files path other) : config = other := by
  obtain ⟨bytes, text, read, encoded, decoded⟩ := first
  obtain ⟨bytes', text', read', encoded', decoded'⟩ := second
  cases read.symm.trans read'
  cases encoded.symm.trans encoded'
  cases decoded.symm.trans decoded'
  rfl

/-- A stage reports one error at most. -/
theorem Stage.Reports.unique {stage : Stage} {other : ConfigError}
    (first : stage.Reports decode files path error)
    (second : stage.Reports decode files path other) : error = other := by
  cases first with
  | reading unread =>
      cases second with
      | reading unread' =>
          cases unread.symm.trans unread'
          rfl
  | decoding read encoded undecoded =>
      cases second with
      | decoding read' encoded' undecoded' =>
          cases read.symm.trans read'
          cases encoded.symm.trans encoded'
          cases undecoded.symm.trans undecoded'
          rfl
  | zero decodes zero =>
      cases second with
      | zero => rfl
      | aboveMaximum decodes' above =>
          cases decodes.unique decodes'
          omega
  | aboveMaximum decodes above =>
      cases second with
      | zero decodes' zero =>
          cases decodes.unique decodes'
          omega
      | aboveMaximum => rfl
  | _ =>
      cases second
      rfl

namespace Judged

/-- A configuration is loaded only when every stage passes and the file holds it. -/
theorem passes_of_ok (judged : Judged decode files path stages (.ok config)) :
    (∀ stage ∈ stages, stage.Passes decode files path) ∧ Decodes decode files path config := by
  generalize same : Except.ok config = result at judged
  induction judged with
  | accepted decodes =>
      cases same
      exact ⟨nofun, decodes⟩
  | failed => cases same
  | passed passes _ ih =>
      obtain ⟨later, decodes⟩ := ih same
      exact ⟨List.forall_mem_cons.mpr ⟨passes, later⟩, decodes⟩

/-- An error is the report of the first stage that fails. -/
theorem first_of_error (judged : Judged decode files path stages (.error error)) :
    ∃ stage, IsFirst (fun stage => ¬ stage.Passes decode files path) stages stage ∧
      stage.Reports decode files path error := by
  generalize same : Except.error error = result at judged
  induction judged with
  | accepted => cases same
  | failed fails reports =>
      cases same
      exact ⟨_, .here fails, reports⟩
  | passed passes _ ih =>
      obtain ⟨stage, first, reports⟩ := ih same
      exact ⟨stage, .later (not_not_intro passes) first, reports⟩

variable {result : Except ConfigError Config}

/-- The result is a configuration just when all stages pass. -/
theorem eq_ok_iff (judged : Judged decode files path stages result) :
    result = .ok config ↔
      (∀ stage ∈ stages, stage.Passes decode files path) ∧ Decodes decode files path config := by
  cases result with
  | ok loaded =>
      obtain ⟨passes, decodes⟩ := judged.passes_of_ok
      rw [Except.ok.injEq, and_iff_right passes]
      constructor
      · rintro rfl
        exact decodes
      · exact decodes.unique
  | error error =>
      obtain ⟨stage, first, -⟩ := judged.first_of_error
      exact iff_of_false nofun fun both => first.meets (both.1 stage first.mem)

/-- The result is an error just when the first stage that fails reports it. -/
theorem eq_error_iff (judged : Judged decode files path stages result) :
    result = .error error ↔
      ∃ stage, IsFirst (fun stage => ¬ stage.Passes decode files path) stages stage ∧
        stage.Reports decode files path error := by
  cases result with
  | ok loaded =>
      obtain ⟨passes, -⟩ := judged.passes_of_ok
      refine iff_of_false nofun ?_
      rintro ⟨stage, first, -⟩
      exact first.meets (passes stage first.mem)
  | error found =>
      obtain ⟨stage, first, reports⟩ := judged.first_of_error
      constructor
      · rintro ⟨⟩
        exact ⟨stage, first, reports⟩
      · rintro ⟨stage', first', reports'⟩
        cases first.unique first'
        rw [reports.unique reports']

end Judged

/-- The last stages are the settings, in their order. -/
theorem judged_settings (decodes : Decodes decode files path config) (settings : List Setting) :
    Judged decode files path (settings.map .limit)
      (match settings.findSome? fun setting =>
          setting.invalid? (config.validation.value setting) with
      | some error => .error (.invalid error)
      | none => .ok config) := by
  induction settings with
  | nil => exact .accepted decodes
  | cons setting rest ih =>
      rw [List.findSome?_cons, List.map_cons]
      by_cases zero : config.validation.value setting = 0
      · rw [Setting.invalid?, if_pos zero]
        refine .failed (fun passes => ?_) (.zero decodes zero)
        exact absurd zero (Nat.one_le_iff_ne_zero.mp (passes config decodes).1)
      · by_cases above : setting.maximum < config.validation.value setting
        · rw [Setting.invalid?, if_neg zero, if_pos above]
          refine .failed (fun passes => ?_) (.aboveMaximum decodes above)
          exact absurd above (not_lt.mpr (passes config decodes).2)
        · rw [Setting.invalid?, if_neg zero, if_neg above]
          refine .passed (fun loaded decodes' => ?_) ih
          cases decodes.unique decodes'
          exact ⟨Nat.one_le_iff_ne_zero.mpr zero, not_lt.mp above⟩

/-- The last stages of a file whose text is read: decoding, and then the settings. -/
theorem judged_document {bytes : ByteArray} {text : String} (read : files path = .ok bytes)
    (encoded : String.fromUTF8? bytes = some text) :
    Judged decode files path (.decoding :: Setting.all.map .limit)
      (do (← (decode text).mapError .parse).checked) := by
  cases decoded : decode text with
  | error reason =>
      refine .failed (fun passes => ?_) (.decoding read encoded decoded)
      obtain ⟨config, decoded'⟩ := passes bytes text read encoded
      cases decoded.symm.trans decoded'
  | ok config =>
      refine .passed ?_ (judged_settings ⟨bytes, text, read, encoded, decoded⟩ Setting.all)
      intro bytes' text' read' encoded'
      cases read.symm.trans read'
      cases encoded.symm.trans encoded'
      exact ⟨config, decoded⟩

/-- The stages of a file that is read: its size, its encoding, and then what its text holds. -/
theorem judged_file {bytes : ByteArray} (read : files path = .ok bytes) :
    Judged decode files path (.fileSize :: .encoding :: .decoding :: Setting.all.map .limit)
      (do (← (decode (← fileText bytes)).mapError .parse).checked) := by
  by_cases large : maxFileSize < bytes.size
  · rw [fileText, if_pos large]
    exact .failed (fun passes => absurd large (not_lt.mpr (passes bytes read))) .fileSize
  · rw [fileText, if_neg large]
    refine .passed ?_ ?_
    · intro bytes' read'
      cases read.symm.trans read'
      exact not_lt.mp large
    · cases encoded : String.fromUTF8? bytes with
      | none =>
          refine .failed (fun passes => ?_) .encoding
          obtain ⟨text, encoded'⟩ := passes bytes read
          cases encoded.symm.trans encoded'
      | some text =>
          refine .passed ?_ (judged_document read encoded)
          intro bytes' read'
          cases read.symm.trans read'
          exact ⟨text, encoded⟩

/-- The components of a path are short when no part of it without a slash is long. -/
theorem Path.hasShortComponents_iff :
    path.HasShortComponents ↔
      ∀ component ∈ path.components, component.length ≤ maxPathComponentLength := by
  obtain ⟨first, later⟩ := Text.splitList_infix '/'.toUInt8 path.bytes
  obtain ⟨freeFirst, freeLater⟩ := Text.not_mem_splitList '/'.toUInt8 path.bytes
  rw [components, List.forall_mem_cons]
  constructor
  · intro short
    exact ⟨short _ first.isInfix freeFirst,
      fun component member => short _ (later component member) (freeLater component member)⟩
  · rintro ⟨shortFirst, shortLater⟩ run occurs free
    rcases Text.infix_splitList occurs free with inFirst | ⟨component, member, inside⟩
    · exact inFirst.length_le.trans shortFirst
    · exact inside.length_le.trans (shortLater component member)

/-- The path that is wanted is found unless it is too long, and then checking it fails as well. -/
theorem resolvePath_cases (environment : Option ByteArray) (path : Option Path) :
    resolvePath environment path = .ok (wantedPath environment path) ∨
      resolvePath environment path = .error (.invalid .pathTooLong) ∧
        (wantedPath environment path).check = .error (.invalid .pathTooLong) := by
  cases path with
  | some path => exact .inl rfl
  | none =>
      rw [resolvePath, wantedPath, Option.getD_none]
      cases environment.bind String.fromUTF8? with
      | none => exact .inl rfl
      | some path =>
          rw [Option.getD_some]
          by_cases long : maxPathLength < path.utf8ByteSize
          · exact .inr ⟨if_pos long, if_pos long⟩
          · exact .inl (if_neg long)

/-- Loads a configuration from a path. -/
def loadFrom (decode : String → Except String Config) (files : Path → Except String ByteArray)
    (path : Path) : Except ConfigError Config := do
  path.check
  let bytes ← (files path).mapError .io
  (← (decode (← fileText bytes)).mapError .parse).checked

/-- Loading is loading from the path that is wanted. A text from the environment is checked for its
length twice, with one outcome. -/
theorem loadWith_eq_loadFrom (environment : Option ByteArray) (path : Option Path) :
    loadWith decode files environment path =
      loadFrom decode files (wantedPath environment path) := by
  rw [loadWith]
  rcases resolvePath_cases environment path with found | ⟨tooLong, fails⟩
  · rw [found]
    rfl
  · rw [tooLong, loadFrom, fails]
    rfl

/-- Loading from a path goes through all stages, in their order. -/
theorem judged_loadFrom : Judged decode files path Stage.order (loadFrom decode files path) := by
  rw [loadFrom, Path.check]
  by_cases long : maxPathLength < path.bytes.length
  · rw [if_pos long]
    exact .failed (fun passes => absurd long (not_lt.mpr passes)) .pathLength
  · rw [if_neg long]
    refine .passed (not_lt.mp long) ?_
    by_cases wide : path.components.any fun component => maxPathComponentLength < component.length
    · rw [if_pos wide]
      refine .failed (fun short => ?_) .componentLength
      obtain ⟨component, member, exceeds⟩ := List.any_eq_true.mp wide
      exact absurd (of_decide_eq_true exceeds)
        (not_lt.mpr (Path.hasShortComponents_iff.mp short component member))
    · rw [if_neg wide]
      refine .passed (Path.hasShortComponents_iff.mpr fun component member => ?_) ?_
      · exact not_lt.mp fun exceeds =>
          wide (List.any_eq_true.mpr ⟨component, member, decide_eq_true exceeds⟩)
      · cases read : files path with
        | error reason =>
            refine .failed (fun passes => ?_) (.reading read)
            obtain ⟨bytes, read'⟩ := passes
            cases read.symm.trans read'
        | ok bytes => exact .passed ⟨bytes, read⟩ (judged_file read)

/-- **Loading fails closed, and bounds what is accepted later.** A configuration is loaded just when
all stages pass, and it is what the file holds; an error is reported just when the first stage that
fails reports it. While a loaded configuration enforces its limits, no size in an accepted
definition or card is above its hard maximum. -/
theorem loading_fails_closed (decode : String → Except String Config)
    (files : Path → Except String ByteArray) (environment : Option ByteArray) (path : Option Path) :
    (∀ config, loadWith decode files environment path = .ok config ↔
        (∀ stage ∈ Stage.order, stage.Passes decode files (wantedPath environment path)) ∧
        Decodes decode files (wantedPath environment path) config) ∧
      (∀ error, loadWith decode files environment path = .error error ↔
        ∃ stage,
          IsFirst (fun stage => ¬ stage.Passes decode files (wantedPath environment path))
            Stage.order stage ∧
          stage.Reports decode files (wantedPath environment path) error) ∧
      ∀ config, loadWith decode files environment path = .ok config →
        config.validation.enforceLimits = true → ∀ parent,
          (∀ definition : ScoreDefinition,
            (definition.validate config.limits parent).errors = [] → definition.Bounded) ∧
          ∀ card : ScoreCard, (card.validate config.limits parent).errors = [] → card.Bounded := by
  have judged := @judged_loadFrom decode files (wantedPath environment path)
  rw [loadWith_eq_loadFrom]
  refine ⟨fun config => judged.eq_ok_iff, fun error => judged.eq_error_iff, ?_⟩
  intro config loaded enforced parent
  obtain ⟨passes, decodes⟩ := judged.eq_ok_iff.mp loaded
  have loosens : hardLimits.Loosens config.limits :=
    hardLimits_loosens enforced fun setting =>
      (passes (.limit setting) (Stage.limit_mem_order setting) config decodes).2
  exact ⟨fun definition => ScoreDefinition.bounded_of_loosens loosens,
    fun card => ScoreCard.bounded_of_loosens loosens⟩

/-- The only file is at the default path, and it sets one limit. -/
def oneLimitFiles (path : Path) : Except String ByteArray :=
  if path = .ofText "catalog-scoring.toml" then .ok "[validation]\nmax_thresholds = 2\n".toUTF8
  else .error "not found"

def oneLimit : Config where
  validation := { maxThresholds := 2 }

/-- A path that is no text, with a component of 256 bytes after the first slash. -/
def longRawPath : Path := ⟨[255, '/'.toUInt8] ++ List.replicate 256 255⟩

/-- The file is loaded with defaults for the other limits, and what is accepted then is bounded. A
path that is no text is held against the bound on components before any file is read. -/
theorem one_limit_loaded :
    loadWith (decodeToml id) oneLimitFiles none none = .ok oneLimit ∧
      oneLimit.validation.enforceLimits = true ∧
      (styleScore.validate oneLimit.limits "projects/demo").errors = [] ∧ styleScore.Bounded ∧
      loadWith (decodeToml id) oneLimitFiles none (some longRawPath) =
        .error (.invalid .pathComponentTooLong) := by
  have loaded : loadWith (decodeToml id) oneLimitFiles none none = .ok oneLimit := by
    decide +kernel
  have accepted : (styleScore.validate oneLimit.limits "projects/demo").errors = [] := by
    decide +kernel
  obtain ⟨-, -, bounded⟩ := loading_fails_closed (decodeToml id) oneLimitFiles none none
  obtain ⟨definitions, -⟩ := bounded oneLimit loaded rfl "projects/demo"
  refine ⟨loaded, rfl, accepted, definitions styleScore accepted, ?_⟩
  decide +kernel

end Config

end ScoringRules
