import Mathlib.Data.List.Count
import Mathlib.Data.List.Induction
import ScoringRules.Proofs.Result
import ScoringRules.Validation.Definition

/-!
# Boolean thresholds

Boolean thresholds are to classify each of the two values once. The walk raises a flag for each
value that it passes, and reports a value whose flag is raised already. After any part of the list,
a flag is raised just when its value is in that part, so the reports are those of the positions that
an equal value comes before. They follow the order of the thresholds, but how many there are of a
value depends only on how often it occurs.

- `Threshold.seen_scan` and `Threshold.errors_scan` say what the walk has kept and found
- `Threshold.count_recurring` says how often a value is reported, and
  `Threshold.booleanErrors_of_perm` that the order is lost in it
- `Threshold.boolean_report` tells the whole report
-/

namespace ScoringRules.Threshold

section Recurring

variable {values : List Bool}

/-- The values at the positions that an equal value comes before, in order. -/
def recurring (values : List Bool) : List Bool :=
  (values.zipIdx.filter fun (value, position) => value ∈ values.take position).map Prod.fst

/-- A value that is put at the end comes again if it is in the list before. -/
theorem recurring_append_singleton (values : List Bool) (value : Bool) :
    recurring (values ++ [value]) = recurring values ++ if value ∈ values then [value] else [] := by
  have before : (values.zipIdx.filter fun (other, position) =>
        other ∈ (values ++ [value]).take position) =
      values.zipIdx.filter fun (other, position) => other ∈ values.take position := by
    apply List.filter_congr
    rintro ⟨other, position⟩ member
    have inside : position ≤ values.length := Nat.le_of_lt (List.mem_zipIdx' member).1
    simp only [List.take_append_of_le_length inside]
  rw [recurring, List.zipIdx_append, List.filter_append, before, List.map_append, ← recurring,
    Nat.zero_add, List.zipIdx_singleton, List.filter_cons, List.filter_nil]
  simp only [List.take_left, decide_eq_true_eq]
  split
  · rfl
  · rfl

/-- A value comes again at each of its positions but the first. -/
theorem count_recurring (values : List Bool) (value : Bool) :
    (recurring values).count value = values.count value - 1 := by
  induction values using List.reverseRecOn with
  | nil => rfl
  | append_singleton earlier last ih =>
      rw [recurring_append_singleton, List.count_append, List.count_append, ih]
      by_cases same : last = value
      · subst same
        by_cases seen : last ∈ earlier
        · have positive : 0 < earlier.count last := List.count_pos_iff.mpr seen
          rw [if_pos seen, List.count_singleton_self]
          omega
        · rw [if_neg seen, List.count_eq_zero.mpr seen, List.count_singleton_self, List.count_nil]
      · have other : value ∉ [last] := by
          rw [List.mem_singleton]
          exact Ne.symm same
        have never : value ∉ if last ∈ earlier then [last] else [] := by
          split
          · exact other
          · exact List.not_mem_nil
        rw [List.count_eq_zero.mpr other, List.count_eq_zero.mpr never]
        rfl

end Recurring

section Walking

variable (values : List Bool)

/-- The walk over a list of values, from its start. -/
def scan : BooleanScan := values.foldl BooleanScan.step {}

/-- A walk over one more value is one more step. -/
theorem scan_append_singleton (value : Bool) :
    scan (values ++ [value]) = (scan values).step value := by
  rw [scan, List.foldl_append]
  rfl

/-- One step raises the flag of its value and leaves the other one. -/
theorem seen_step (walk : BooleanScan) (value other : Bool) :
    (walk.step value).seen other = (walk.seen other || other == value) := by
  have kept : (walk.report value).seen = walk.seen := by
    rw [BooleanScan.report]
    split <;> rfl
  rw [BooleanScan.step, ← kept]
  cases value <;> cases other <;> simp [BooleanScan.raise, BooleanScan.seen]

/-- One step adds a report of its value, provided that the flag is raised. -/
theorem errors_step (walk : BooleanScan) (value : Bool) :
    (walk.step value).errors =
      walk.errors ++ if walk.seen value then [.duplicateBoolean value] else [] := by
  have raised (reported : BooleanScan) : (reported.raise value).errors = reported.errors := by
    cases value <;> rfl
  rw [BooleanScan.step, raised, BooleanScan.report]
  split
  · rfl
  · rw [List.append_nil]

/-- A flag is raised just when its value has been passed. -/
theorem seen_scan (value : Bool) : (scan values).seen value ↔ value ∈ values := by
  induction values using List.reverseRecOn with
  | nil => cases value <;> exact iff_of_false nofun List.not_mem_nil
  | append_singleton earlier last ih =>
      rw [scan_append_singleton, seen_step, Bool.or_eq_true, ih, beq_iff_eq, List.mem_append,
        List.mem_singleton]

/-- The walk has reported the values that came again. -/
theorem errors_scan : (scan values).errors = (recurring values).map .duplicateBoolean := by
  induction values using List.reverseRecOn with
  | nil => rfl
  | append_singleton earlier last ih =>
      rw [scan_append_singleton, errors_step, ih, recurring_append_singleton, List.map_append]
      simp only [seen_scan]
      rw [apply_ite (List.map _)]
      rfl

/-- The whole report: the values that come again, and then that a value is missing. -/
theorem booleanErrors_eq :
    booleanErrors values = (recurring values).map .duplicateBoolean ++
      if true ∈ values ∧ false ∈ values then [] else [.missingBoolean] := by
  have both : ((scan values).seenTrue && (scan values).seenFalse) = true ↔
      true ∈ values ∧ false ∈ values := by
    rw [Bool.and_eq_true]
    exact and_congr (seen_scan values true) (seen_scan values false)
  rw [booleanErrors, ← scan, BooleanScan.finish, errors_scan]
  simp only [both]
  split
  · rw [List.append_nil]
  · rfl

end Walking

section Errors

variable {values reordered : List Bool}

/-- The check passes exactly when each value has one threshold. -/
theorem booleanErrors_eq_nil_iff :
    booleanErrors values = [] ↔ ∀ value, values.count value = 1 := by
  have once : recurring values = [] ↔ ∀ value, values.count value - 1 = 0 := by
    simp only [List.eq_nil_iff_forall_not_mem, ← List.count_eq_zero, count_recurring]
  rw [booleanErrors_eq, List.append_eq_nil_iff, List.map_eq_nil_iff, requirement_eq_nil_iff, once,
    ← List.count_pos_iff, ← List.count_pos_iff]
  simp only [Bool.forall_bool]
  omega

/-- In another order, the same errors are found. -/
theorem booleanErrors_of_perm (permuted : reordered.Perm values) :
    (booleanErrors reordered).Perm (booleanErrors values) := by
  have repeats : (recurring reordered).Perm (recurring values) := by
    rw [List.perm_iff_count]
    intro value
    rw [count_recurring, count_recurring, permuted.count_eq]
  rw [booleanErrors_eq, booleanErrors_eq]
  simp only [permuted.mem_iff]
  exact (repeats.map _).append_right _

end Errors

/-- The values that thresholds classify, in the order of the thresholds. -/
def valuesOf (thresholds : List BooleanThreshold) : List Bool :=
  thresholds.map BooleanThreshold.value

/-- The error of a threshold whose value has been classified before. -/
def duplicateError (value : Bool) : ValidationError :=
  .threshold (.coverage (.duplicateBoolean value))

/-- The error of thresholds that leave a value out. -/
def missingError : ValidationError := .threshold (.coverage .missingBoolean)

/-- The report on thresholds, in the words of validation. -/
theorem booleanThresholdErrors_eq (thresholds : List BooleanThreshold) :
    booleanThresholdErrors thresholds =
      (recurring (valuesOf thresholds)).map duplicateError ++
        if true ∈ valuesOf thresholds ∧ false ∈ valuesOf thresholds then []
        else [missingError] := by
  rw [booleanThresholdErrors, ← valuesOf, booleanErrors_eq, List.map_append, List.map_map,
    apply_ite (List.map _)]
  rfl

/-- A duplicate is reported for each threshold of a value but the first. -/
theorem count_duplicateError (thresholds : List BooleanThreshold) (value : Bool) :
    (booleanThresholdErrors thresholds).count (duplicateError value) =
      (valuesOf thresholds).count value - 1 := by
  have injective : Function.Injective duplicateError := by
    intro first second same
    cases same
    rfl
  have elsewhere : duplicateError value ∉
      if true ∈ valuesOf thresholds ∧ false ∈ valuesOf thresholds then []
      else [missingError] := by
    split
    · exact List.not_mem_nil
    · rw [List.mem_singleton]
      exact nofun
  rw [booleanThresholdErrors_eq, List.count_append, List.count_map_of_injective _ _ injective,
    List.count_eq_zero.mpr elsewhere, count_recurring, Nat.add_zero]

/-- A list in which each value occurs once has two entries, one for each. -/
theorem perm_true_false_iff {values : List Bool} :
    values.Perm [true, false] ↔ ∀ value, values.count value = 1 := by
  rw [List.perm_iff_count]
  apply forall_congr'
  intro value
  cases value <;> rfl

/-- **What is reported about boolean thresholds.** First, in order, a duplicate for each position
whose value has occurred before, so for each occurrence of a value but the first; and then, once,
that a value is missing, if one is. Nothing is reported just when there are two thresholds, one for
each value. In another order of the thresholds, each error is reported as often. -/
theorem boolean_report (thresholds : List BooleanThreshold) :
    (booleanThresholdErrors thresholds =
        (recurring (valuesOf thresholds)).map duplicateError ++
          if true ∈ valuesOf thresholds ∧ false ∈ valuesOf thresholds then [] else [missingError]) ∧
      (∀ value, (booleanThresholdErrors thresholds).count (duplicateError value) =
        (valuesOf thresholds).count value - 1) ∧
      (booleanThresholdErrors thresholds = [] ↔ (valuesOf thresholds).Perm [true, false]) ∧
      ∀ reordered : List BooleanThreshold, reordered.Perm thresholds →
        (booleanThresholdErrors reordered = [] ↔ booleanThresholdErrors thresholds = []) ∧
          ∀ error, (booleanThresholdErrors reordered).count error =
            (booleanThresholdErrors thresholds).count error := by
  refine ⟨booleanThresholdErrors_eq thresholds, count_duplicateError thresholds, ?empty, ?order⟩
  case empty =>
    rw [booleanThresholdErrors, List.map_eq_nil_iff, ← valuesOf, booleanErrors_eq_nil_iff,
      perm_true_false_iff]
  case order =>
    intro reordered permuted
    have reports : (booleanThresholdErrors reordered).Perm (booleanThresholdErrors thresholds) :=
      (booleanErrors_of_perm (permuted.map BooleanThreshold.value)).map _
    refine ⟨?_, reports.count_eq⟩
    rw [← List.perm_nil, ← List.perm_nil]
    exact ⟨reports.symm.trans, reports.trans⟩

/-- Three thresholds for one value and one for the other. -/
def unevenThresholds : List BooleanThreshold :=
  [{ value := true, severity := .ok }, { value := false, severity := .alert }, { value := true },
    { value := true, severity := .warning }]

/-- The second and the third threshold for the value are duplicates, and so are two in the reverse
order. -/
theorem uneven_thresholds_reported_alike :
    booleanThresholdErrors unevenThresholds = [duplicateError true, duplicateError true] ∧
      unevenThresholds.reverse.Perm unevenThresholds ∧
      (booleanThresholdErrors unevenThresholds.reverse).count (duplicateError true) = 2 := by
  obtain ⟨listed, counted, -, ordered⟩ := boolean_report unevenThresholds
  have permuted : unevenThresholds.reverse.Perm unevenThresholds := List.reverse_perm _
  refine ⟨listed, permuted, ?_⟩
  rw [(ordered _ permuted).2, counted]
  rfl

end ScoringRules.Threshold
