import ScoringRules.Config.Basic
import ScoringRules.Proofs.Document.Lawful
import ScoringRules.Score.Codec

/-!
# Reading score definitions and configurations back

For each type of a document: the layout of its documents, and the law of reading them. The layouts
name the fields that have to be given, which are the ends of a range and what a threshold
classifies, and the defaults of all others.

- `documents_read_back` collects the types
-/

namespace ScoringRules

open Json

instance : HasLayout Selector := ⟨.record [.optional "pattern" "", .optional "filter" ""]⟩

instance : LawfulDocument Selector :=
  .of_record rfl (by decide) (fun _ => rfl) (fun _ => rfl) (fun _ => rfl) (fun _ => by simp)
    fun given given' value edited read => by
      simp only [List.forall_mem_cons] at edited
      obtain ⟨pattern, filter, -⟩ := edited
      refine bind_keeps read (optional?_edited pattern) fun _ read => ?_
      exact bind_keeps read (optional?_edited filter) fun _ read => read

instance : HasLayout Severity := ⟨.scalar⟩

instance : LawfulDocument Severity := .of_scalar rfl fun severity => by cases severity <;> rfl

instance : HasLayout NumberRange := ⟨.record [.required "min" Int32, .required "max" Int32]⟩

instance : LawfulDocument NumberRange :=
  .of_record rfl (by decide) (fun _ => rfl) (fun _ => rfl) (fun _ => rfl) (fun _ => by simp)
    fun given given' value edited read => by
      simp only [List.forall_mem_cons] at edited
      obtain ⟨min, max, -⟩ := edited
      refine bind_keeps read (required?_edited min) fun _ read => ?_
      exact bind_keeps read (required?_edited max) fun _ read => read

instance : HasLayout NumberThreshold where
  layout := .record [
    .required "range" NumberRange,
    .optional "severity" Severity.unspecified]

instance : LawfulDocument NumberThreshold :=
  .of_record rfl (by decide) (fun _ => rfl) (fun _ => rfl) (fun _ => rfl) (fun _ => by simp)
    fun given given' value edited read => by
      simp only [List.forall_mem_cons] at edited
      obtain ⟨range, severity, -⟩ := edited
      refine bind_keeps read (required?_edited range) fun _ read => ?_
      exact bind_keeps read (optional?_edited severity) fun _ read => read

instance : HasLayout BooleanThreshold where
  layout := .record [
    .required "value" Bool,
    .optional "severity" Severity.unspecified]

instance : LawfulDocument BooleanThreshold :=
  .of_record rfl (by decide) (fun _ => rfl) (fun _ => rfl) (fun _ => rfl) (fun _ => by simp)
    fun given given' value edited read => by
      simp only [List.forall_mem_cons] at edited
      obtain ⟨value, severity, -⟩ := edited
      refine bind_keeps read (required?_edited value) fun _ read => ?_
      exact bind_keeps read (optional?_edited severity) fun _ read => read

instance : HasLayout ScoreFormula where
  layout := .record [
    .optional "artifact" ({} : Selector),
    .optional "score_expression" "",
    .optional "reference_id" ""]

instance : LawfulDocument ScoreFormula :=
  .of_record rfl (by decide) (fun _ => rfl) (fun _ => rfl) (fun _ => rfl) (fun _ => by simp)
    fun given given' value edited read => by
      simp only [List.forall_mem_cons] at edited
      obtain ⟨artifact, expression, referenceId, -⟩ := edited
      refine bind_keeps read (optional?_edited artifact) fun _ read => ?_
      refine bind_keeps read (optional?_edited expression) fun _ read => ?_
      exact bind_keeps read (optional?_edited referenceId) fun _ read => read

instance : HasLayout RollupFormula where
  layout := .record [
    .optional "score_formulas" ([] : List ScoreFormula),
    .optional "rollup_expression" ""]

instance : LawfulDocument RollupFormula :=
  .of_record rfl (by decide) (fun _ => rfl) (fun _ => rfl) (fun _ => rfl) (fun _ => by simp)
    fun given given' value edited read => by
      simp only [List.forall_mem_cons] at edited
      obtain ⟨components, expression, -⟩ := edited
      refine bind_keeps read (optional?_edited components) fun _ read => ?_
      exact bind_keeps read (optional?_edited expression) fun _ read => read

instance : HasLayout Formula where
  layout := .choice [
    ("score_formula", HasLayout.layout ScoreFormula),
    ("rollup_formula", HasLayout.layout RollupFormula)]

instance : LawfulDocument Formula :=
  .of_choice rfl
    (fun formula => by
      cases formula with
      | single formula =>
          exact congrArg (Option.map Formula.single) (LawfulDocument.decode_encode formula)
      | rollup formula =>
          exact congrArg (Option.map Formula.rollup) (LawfulDocument.decode_encode formula))
    fun known inner read => by
      simp only [List.mem_cons, Prod.mk.injEq, List.not_mem_nil, or_false] at known
      obtain ⟨rfl, rfl⟩ | ⟨rfl, rfl⟩ := known
      · exact map_keeps Formula.single read (LawfulDocument.decode_edit inner)
      · exact map_keeps Formula.rollup read (LawfulDocument.decode_edit inner)

instance : HasLayout PercentType := ⟨.record [.optional "thresholds" ([] : List NumberThreshold)]⟩

instance : LawfulDocument PercentType :=
  .of_record rfl (by decide) (fun _ => rfl) (fun _ => rfl) (fun _ => rfl) (fun _ => by simp)
    fun given given' value edited read => by
      simp only [List.forall_mem_cons] at edited
      obtain ⟨thresholds, -⟩ := edited
      exact bind_keeps read (optional?_edited thresholds) fun _ read => read

instance : HasLayout IntegerType where
  layout := .record [
    .optional "min_value" (0 : Int32),
    .optional "max_value" (0 : Int32),
    .optional "thresholds" ([] : List NumberThreshold)]

instance : LawfulDocument IntegerType :=
  .of_record rfl (by decide) (fun _ => rfl) (fun _ => rfl) (fun _ => rfl) (fun _ => by simp)
    fun given given' value edited read => by
      simp only [List.forall_mem_cons] at edited
      obtain ⟨min, max, thresholds, -⟩ := edited
      refine bind_keeps read (optional?_edited min) fun _ read => ?_
      refine bind_keeps read (optional?_edited max) fun _ read => ?_
      exact bind_keeps read (optional?_edited thresholds) fun _ read => read

instance : HasLayout BooleanType := ⟨.record [.optional "thresholds" ([] : List BooleanThreshold)]⟩

instance : LawfulDocument BooleanType :=
  .of_record rfl (by decide) (fun _ => rfl) (fun _ => rfl) (fun _ => rfl) (fun _ => by simp)
    fun given given' value edited read => by
      simp only [List.forall_mem_cons] at edited
      obtain ⟨thresholds, -⟩ := edited
      exact bind_keeps read (optional?_edited thresholds) fun _ read => read

instance : HasLayout ScoreType where
  layout := .choice [
    ("percent", HasLayout.layout PercentType),
    ("integer", HasLayout.layout IntegerType),
    ("boolean", HasLayout.layout BooleanType)]

instance : LawfulDocument ScoreType :=
  .of_choice rfl
    (fun type => by
      cases type with
      | percent type =>
          exact congrArg (Option.map ScoreType.percent) (LawfulDocument.decode_encode type)
      | integer type =>
          exact congrArg (Option.map ScoreType.integer) (LawfulDocument.decode_encode type)
      | boolean type =>
          exact congrArg (Option.map ScoreType.boolean) (LawfulDocument.decode_encode type))
    fun known inner read => by
      simp only [List.mem_cons, Prod.mk.injEq, List.not_mem_nil, or_false] at known
      obtain ⟨rfl, rfl⟩ | ⟨rfl, rfl⟩ | ⟨rfl, rfl⟩ := known
      · exact map_keeps ScoreType.percent read (LawfulDocument.decode_edit inner)
      · exact map_keeps ScoreType.integer read (LawfulDocument.decode_edit inner)
      · exact map_keeps ScoreType.boolean read (LawfulDocument.decode_edit inner)

-- Formulas and types are written as objects, which tell them from null.
instance : LawfulDocument (Option Formula) :=
  .of_option fun formula => by cases formula <;> exact nofun

instance : LawfulDocument (Option ScoreType) :=
  .of_option fun type => by cases type <;> exact nofun

instance : HasLayout ScoreDefinition where
  layout := .record [
    .optional "id" "",
    .optional "display_name" "",
    .optional "description" "",
    .optional "uri" "",
    .optional "uri_display_name" "",
    .optional "target_resource" ({} : Selector),
    .optional "formula" (none : Option Formula),
    .optional "type" (none : Option ScoreType)]

instance : LawfulDocument ScoreDefinition :=
  .of_record rfl (by decide) (fun _ => rfl) (fun _ => rfl) (fun _ => rfl) (fun _ => by simp)
    fun given given' value edited read => by
      simp only [List.forall_mem_cons] at edited
      obtain ⟨id, displayName, description, uri, uriDisplayName, target, formula, type, -⟩ := edited
      refine bind_keeps read (optional?_edited id) fun _ read => ?_
      refine bind_keeps read (optional?_edited displayName) fun _ read => ?_
      refine bind_keeps read (optional?_edited description) fun _ read => ?_
      refine bind_keeps read (optional?_edited uri) fun _ read => ?_
      refine bind_keeps read (optional?_edited uriDisplayName) fun _ read => ?_
      refine bind_keeps read (optional?_edited target) fun _ read => ?_
      refine bind_keeps read (optional?_edited formula) fun _ read => ?_
      exact bind_keeps read (optional?_edited type) fun _ read => read

instance : HasLayout ScoreCard where
  layout := .record [
    .optional "id" "",
    .optional "display_name" "",
    .optional "description" "",
    .optional "uri" "",
    .optional "uri_display_name" "",
    .optional "target_resource" ({} : Selector),
    .optional "score_patterns" ([] : List String)]

instance : LawfulDocument ScoreCard :=
  .of_record rfl (by decide) (fun _ => rfl) (fun _ => rfl) (fun _ => rfl) (fun _ => by simp)
    fun given given' value edited read => by
      simp only [List.forall_mem_cons] at edited
      obtain ⟨id, displayName, description, uri, uriDisplayName, target, scorePatterns, -⟩ := edited
      refine bind_keeps read (optional?_edited id) fun _ read => ?_
      refine bind_keeps read (optional?_edited displayName) fun _ read => ?_
      refine bind_keeps read (optional?_edited description) fun _ read => ?_
      refine bind_keeps read (optional?_edited uri) fun _ read => ?_
      refine bind_keeps read (optional?_edited uriDisplayName) fun _ read => ?_
      refine bind_keeps read (optional?_edited target) fun _ read => ?_
      exact bind_keeps read (optional?_edited scorePatterns) fun _ read => read

instance : HasLayout ValidationSettings where
  layout := .record [
    .optional "enforce_limits" true,
    .optional "max_score_formulas" (64 : UInt64),
    .optional "max_score_patterns" (64 : UInt64),
    .optional "max_thresholds" (64 : UInt64),
    .optional "max_expression_bytes" (16384 : UInt64),
    .optional "max_pattern_bytes" (1024 : UInt64)]

instance : LawfulDocument ValidationSettings :=
  .of_record rfl (by decide) (fun _ => rfl) (fun _ => rfl) (fun _ => rfl) (fun _ => by simp)
    fun given given' value edited read => by
      simp only [List.forall_mem_cons] at edited
      obtain ⟨enforceLimits, maxScoreFormulas, maxScorePatterns, maxThresholds, maxExpressionBytes,
        maxPatternBytes, -⟩ := edited
      refine bind_keeps read (optional?_edited enforceLimits) fun _ read => ?_
      refine bind_keeps read (optional?_edited maxScoreFormulas) fun _ read => ?_
      refine bind_keeps read (optional?_edited maxScorePatterns) fun _ read => ?_
      refine bind_keeps read (optional?_edited maxThresholds) fun _ read => ?_
      refine bind_keeps read (optional?_edited maxExpressionBytes) fun _ read => ?_
      exact bind_keeps read (optional?_edited maxPatternBytes) fun _ read => read

instance : HasLayout Config := ⟨.record [.optional "validation" ({} : ValidationSettings)]⟩

instance : LawfulDocument Config :=
  .of_record rfl (by decide) (fun _ => rfl) (fun _ => rfl) (fun _ => rfl) (fun _ => by simp)
    fun given given' value edited read => by
      simp only [List.forall_mem_cons] at edited
      obtain ⟨validation, -⟩ := edited
      exact bind_keeps read (optional?_edited validation) fun _ read => read

/-- **Documents are read back, and defaults are transparent.** A document of any type is read back
as the value that it was written from, also after members with defaults have been left out, members
have been put in another order, and members of other names have been added, at any depth and in any
combination. -/
theorem documents_read_back :
    ReadBack Selector ∧ ReadBack Severity ∧ ReadBack NumberRange ∧ ReadBack NumberThreshold ∧
      ReadBack BooleanThreshold ∧ ReadBack ScoreFormula ∧ ReadBack RollupFormula ∧
      ReadBack Formula ∧ ReadBack PercentType ∧ ReadBack IntegerType ∧ ReadBack BooleanType ∧
      ReadBack ScoreType ∧ ReadBack ScoreDefinition ∧ ReadBack ScoreCard ∧
      ReadBack ValidationSettings ∧ ReadBack Config :=
  ⟨.of_lawful, .of_lawful, .of_lawful, .of_lawful, .of_lawful, .of_lawful, .of_lawful, .of_lawful,
    .of_lawful, .of_lawful, .of_lawful, .of_lawful, .of_lawful, .of_lawful, .of_lawful, .of_lawful⟩

/-- A percentage whose only threshold has the default severity. -/
def wholeRange : ScoreType := .percent { thresholds := [{ range := ⟨0, 100⟩ }] }

/-- A document for it that leaves the severity out, gives the ends of the range the other way round,
and has a note. -/
def notedDocument : Json :=
  .object [("percent", .object [
    ("note", .string "one band"),
    ("thresholds",
      .array [.object [("range", .object [("max", .integer 100), ("min", .integer 0)])]])])]

/-- The three edits, two of them at depth, lead to a document that is read back. -/
theorem noted_document_read_back :
    Relation.ReflTransGen (Edit (HasLayout.layout ScoreType)) (Codec.encode wholeRange)
        notedDocument ∧
      Codec.decode? notedDocument = some wholeRange := by
  have inside {value value' : Json} (edit : Edit (HasLayout.layout NumberThreshold) value value') :
      Edit (HasLayout.layout ScoreType)
        (.object [("percent", .object [("thresholds", .array [value])])])
        (.object [("percent", .object [("thresholds", .array [value'])])]) :=
    .case List.mem_cons_self
      (@Edit.member _ (.optional "thresholds" ([] : List NumberThreshold)) [] [] _ _
        List.mem_cons_self (@Edit.item _ [] [] _ _ edit))
  have dropped : Edit (HasLayout.layout NumberThreshold)
      (.object [("range", .object [("min", .integer 0), ("max", .integer 100)]),
        ("severity", .string "SEVERITY_UNSPECIFIED")])
      (.object [("range", .object [("min", .integer 0), ("max", .integer 100)])]) :=
    @Edit.drop _ (.optional "severity" Severity.unspecified) [_] [] _
      (List.mem_cons_of_mem _ List.mem_cons_self) rfl
  have reordered : Edit (HasLayout.layout NumberThreshold)
      (.object [("range", .object [("min", .integer 0), ("max", .integer 100)])])
      (.object [("range", .object [("max", .integer 100), ("min", .integer 0)])]) :=
    @Edit.member _ (.required "range" NumberRange) [] [] _ _ List.mem_cons_self
      (.reorder (.swap ..))
  have noted (value : Json) : Edit (HasLayout.layout ScoreType)
      (.object [("percent", .object [("thresholds", value)])])
      (.object [("percent", .object [("note", .string "one band"), ("thresholds", value)])]) :=
    .case List.mem_cons_self (@Edit.add _ [] _ _ _ (by decide))
  have edits : Relation.ReflTransGen (Edit (HasLayout.layout ScoreType)) (Codec.encode wholeRange)
      notedDocument :=
    ((Relation.ReflTransGen.single (inside dropped)).tail (inside reordered)).tail (noted _)
  obtain ⟨-, -, -, -, -, -, -, -, -, -, -, scoreTypes, -⟩ := documents_read_back
  exact ⟨edits, (scoreTypes wholeRange).2 notedDocument edits⟩

end ScoringRules
