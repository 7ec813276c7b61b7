import Mathlib.Data.List.Nodup
import Mathlib.Data.List.Perm.Basic
import ScoringRules.Proofs.Threshold.Partition

/-!
# What the check of numeric thresholds reports

The check has two phases. The first one judges each range on its own, and the second one looks at
coverage, but only of ranges that are all proper. A report is therefore about single ranges or about
coverage and never about both. The order of the thresholds is also the order of what the first phase
reports. The second phase sorts the ranges, and what it reports does not depend on their order
unless two of them have one lower end.

- `rangeReport` and `coverageReport` take a report apart by phase
- `coverageErrors_of_perm` says that the order is lost in the second phase
- `reordering_thresholds` compares the reports on two orders of the same thresholds
-/

namespace ScoringRules

/-- The error about a single range, if it is one. -/
def ValidationError.range? : ValidationError → Option RangeError
  | threshold (.range error) => some error
  | threshold (.coverage _) | parse _ | reference _ | structural _ => none

/-- The error about coverage, if it is one. -/
def ValidationError.coverage? : ValidationError → Option CoverageError
  | threshold (.coverage error) => some error
  | threshold (.range _) | parse _ | reference _ | structural _ => none

namespace Threshold

/-- What is reported about single ranges. -/
def rangeReport (domain : Interval) (thresholds : List NumberThreshold) : List RangeError :=
  (numberThresholdErrors domain thresholds).filterMap ValidationError.range?

/-- What is reported about coverage. -/
def coverageReport (domain : Interval) (thresholds : List NumberThreshold) : List CoverageError :=
  (numberThresholdErrors domain thresholds).filterMap ValidationError.coverage?

/-- The ranges of thresholds, in the order of the thresholds. -/
def rangesOf (thresholds : List NumberThreshold) : List Interval :=
  thresholds.map fun threshold => threshold.range.interval

section Phases

variable {domain : Interval}

/-- The report has the errors of ranges first and then those of coverage. -/
theorem numberThresholdErrors_eq (domain : Interval) (thresholds : List NumberThreshold) :
    numberThresholdErrors domain thresholds =
      ((rangesOf thresholds).flatMap (rangeErrors domain)).map
          (fun error => .threshold (.range error)) ++
        (lateErrors domain (rangesOf thresholds)).map fun error =>
          .threshold (.coverage error) := by
  rw [numberThresholdErrors, ← rangesOf, numberErrors_eq, List.map_append, List.map_map,
    List.map_map]
  rfl

/-- The errors of ranges are reported range by range. -/
theorem rangeReport_eq (domain : Interval) (thresholds : List NumberThreshold) :
    rangeReport domain thresholds = (rangesOf thresholds).flatMap (rangeErrors domain) := by
  rw [rangeReport, numberThresholdErrors_eq, List.filterMap_append, List.filterMap_map,
    List.filterMap_map]
  change List.filterMap some _ ++ List.filterMap (fun _ => none) _ = _
  rw [List.filterMap_some, List.filterMap_none, List.append_nil]

/-- Errors of coverage are reported when all ranges are proper. -/
theorem coverageReport_eq (domain : Interval) (thresholds : List NumberThreshold) :
    coverageReport domain thresholds = lateErrors domain (rangesOf thresholds) := by
  rw [coverageReport, numberThresholdErrors_eq, List.filterMap_append, List.filterMap_map,
    List.filterMap_map]
  change List.filterMap (fun _ => none) _ ++ List.filterMap some _ = _
  rw [List.filterMap_some, List.filterMap_none, List.nil_append]

/-- A report is what it says about single ranges, followed by what it says about coverage. -/
theorem numberThresholdErrors_eq_reports (domain : Interval) (thresholds : List NumberThreshold) :
    numberThresholdErrors domain thresholds =
      (rangeReport domain thresholds).map (fun error => .threshold (.range error)) ++
        (coverageReport domain thresholds).map fun error => .threshold (.coverage error) := by
  rw [rangeReport_eq, coverageReport_eq, numberThresholdErrors_eq]

/-- No range is reported when all are proper and in the domain. -/
theorem rangeReport_eq_nil_iff {thresholds : List NumberThreshold} :
    rangeReport domain thresholds = [] ↔
      ∀ range ∈ rangesOf thresholds,
        range.min ≤ range.max ∧ domain.min ≤ range.min ∧ range.max ≤ domain.max := by
  simp only [rangeReport_eq, List.flatMap_eq_nil_iff, rangeErrors_eq_nil_iff]

/-- Coverage is looked at when there are thresholds and their ranges are proper. -/
theorem coverageReport_of_proper {thresholds : List NumberThreshold} (nonempty : thresholds ≠ [])
    (proper : rangeReport domain thresholds = []) :
    coverageReport domain thresholds = coverageErrors domain (rangesOf thresholds) := by
  rw [rangeReport_eq] at proper
  rw [coverageReport_eq, lateErrors, if_pos ⟨mt List.map_eq_nil_iff.mp nonempty, proper⟩]

/-- Where something is reported about single ranges, nothing is about coverage. -/
theorem rangeReport_eq_nil_or_coverageReport_eq_nil (domain : Interval)
    (thresholds : List NumberThreshold) :
    rangeReport domain thresholds = [] ∨ coverageReport domain thresholds = [] := by
  rw [rangeReport_eq, coverageReport_eq, lateErrors, ite_eq_right_iff]
  by_cases proper : (rangesOf thresholds).flatMap (rangeErrors domain) = []
  · exact Or.inl proper
  · exact Or.inr fun entered => absurd entered.2 proper

end Phases

section Order

variable {domain : Interval} {ranges reordered : List Interval}

/-- With distinct lower ends there is one way only to sort ranges by them. -/
theorem sortByMin_of_perm (permuted : reordered.Perm ranges)
    (distinct : (ranges.map Interval.min).Nodup) : sortByMin reordered = sortByMin ranges := by
  refine List.Perm.eq_of_pairwise ?antisymm (sortByMin_pairwise reordered)
    (sortByMin_pairwise ranges) ?perm
  case antisymm =>
    intro left right leftMember rightMember below above
    have leftMember : left ∈ ranges :=
      permuted.mem_iff.mp ((sortByMin_perm reordered).mem_iff.mp leftMember)
    have rightMember : right ∈ ranges := (sortByMin_perm ranges).mem_iff.mp rightMember
    exact List.inj_on_of_nodup_map distinct leftMember rightMember (le_antisymm below above)
  case perm =>
    exact ((sortByMin_perm reordered).trans permuted).trans (sortByMin_perm ranges).symm

/-- The order of ranges does not matter to the greatest upper end. -/
theorem highest_of_perm (permuted : reordered.Perm ranges) :
    highest domain reordered = highest domain ranges := by
  apply eq_of_forall_le_iff
  intro bound
  simp only [le_highest_iff, permuted.mem_iff]

/-- The order of ranges does not matter to the least lower end. -/
theorem lowest_of_perm (permuted : reordered.Perm ranges) :
    lowest domain reordered = lowest domain ranges := by
  apply eq_of_forall_ge_iff
  intro bound
  simp only [lowest_le_iff, permuted.mem_iff]

/-- What is wrong with the coverage of a domain does not depend on the order of ranges with distinct
lower ends. -/
theorem coverageErrors_of_perm (permuted : reordered.Perm ranges)
    (distinct : (ranges.map Interval.min).Nodup) :
    coverageErrors domain reordered = coverageErrors domain ranges := by
  rw [coverageErrors, coverageErrors, endErrors, endErrors, sortByMin_of_perm permuted distinct,
    highest_of_perm permuted, lowest_of_perm permuted]

/-- The second phase is entered in both orders or in neither. -/
theorem lateErrors_of_perm (permuted : reordered.Perm ranges)
    (distinct : (ranges.map Interval.min).Nodup) :
    lateErrors domain reordered = lateErrors domain ranges := by
  have nonempty : reordered ≠ [] ↔ ranges ≠ [] := by
    rw [ne_eq, ne_eq, ← List.length_eq_zero_iff, ← List.length_eq_zero_iff, permuted.length_eq]
  have proper : reordered.flatMap (rangeErrors domain) = [] ↔
      ranges.flatMap (rangeErrors domain) = [] := by
    simp only [List.flatMap_eq_nil_iff, permuted.mem_iff]
  simp only [lateErrors, nonempty, proper, coverageErrors_of_perm permuted distinct]

end Order

/-- **The order of thresholds does not matter.** On two orders of the same thresholds, the same is
reported about single ranges up to order, so one report has such errors just when the other one has.
No report has errors about coverage besides. Where nothing is reported about single ranges and no
two ranges have one lower end, the reports are the same. -/
theorem reordering_thresholds {thresholds reordered : List NumberThreshold}
    (permuted : reordered.Perm thresholds) (domain : Interval) :
    (rangeReport domain reordered = [] ↔ rangeReport domain thresholds = []) ∧
      (∀ run ∈ [reordered, thresholds],
        numberThresholdErrors domain run =
            (rangeReport domain run).map (fun error => .threshold (.range error)) ∨
          numberThresholdErrors domain run =
            (coverageReport domain run).map fun error => .threshold (.coverage error)) ∧
      (rangeReport domain reordered).Perm (rangeReport domain thresholds) ∧
      (rangeReport domain thresholds = [] →
        (thresholds.map fun threshold => threshold.range.min).Nodup →
        numberThresholdErrors domain reordered = numberThresholdErrors domain thresholds) := by
  have ranges : (rangesOf reordered).Perm (rangesOf thresholds) := permuted.map _
  have reports : (rangeReport domain reordered).Perm (rangeReport domain thresholds) := by
    rw [rangeReport_eq, rangeReport_eq]
    exact ranges.flatMap_right _
  have neither : rangeReport domain reordered = [] ↔ rangeReport domain thresholds = [] := by
    rw [← List.perm_nil, ← List.perm_nil]
    exact ⟨reports.symm.trans, reports.trans⟩
  refine ⟨neither, fun run _ => ?phase, reports, fun proper distinct => ?same⟩
  case phase =>
    rw [numberThresholdErrors_eq_reports]
    rcases rangeReport_eq_nil_or_coverageReport_eq_nil domain run with nothing | nothing
    · exact Or.inr (by rw [nothing, List.map_nil, List.nil_append])
    · exact Or.inl (by rw [nothing, List.map_nil, List.append_nil])
  case same =>
    have lowerEnds : ((rangesOf thresholds).map Interval.min).Nodup := by
      have ends := distinct.map fun _ _ => Int32.toInt_inj.mp
      rw [List.map_map] at ends
      rw [rangesOf, List.map_map]
      exact ends
    rw [numberThresholdErrors_eq_reports, numberThresholdErrors_eq_reports, neither.mpr proper,
      proper, coverageReport_eq, coverageReport_eq, lateErrors_of_perm ranges lowerEnds]

/-- Thresholds that overlap at 40 and leave out the scores from 61 to 79, in ascending order. -/
def ascendingThresholds : List NumberThreshold :=
  [{ range := ⟨0, 40⟩, severity := .ok }, { range := ⟨40, 60⟩, severity := .warning },
    { range := ⟨80, 100⟩, severity := .alert }]

/-- In descending order they are reported in the same way. -/
theorem descending_thresholds_reported_as_ascending :
    ascendingThresholds.reverse.Perm ascendingThresholds ∧
      rangeReport percentDomain ascendingThresholds = [] ∧
      (ascendingThresholds.map fun threshold => threshold.range.min).Nodup ∧
      numberThresholdErrors percentDomain ascendingThresholds =
        [.threshold (.coverage (.overlap ⟨0, 40⟩ ⟨40, 60⟩)), .threshold (.coverage (.gap 60 80))] ∧
      numberThresholdErrors percentDomain ascendingThresholds.reverse =
        numberThresholdErrors percentDomain ascendingThresholds := by
  have permuted : ascendingThresholds.reverse.Perm ascendingThresholds := List.reverse_perm _
  have proper : rangeReport percentDomain ascendingThresholds = [] := by
    rw [rangeReport_eq]
    decide
  have distinct : (ascendingThresholds.map fun threshold => threshold.range.min).Nodup := by decide
  refine ⟨permuted, proper, distinct, ?_,
    (reordering_thresholds permuted percentDomain).2.2.2 proper distinct⟩
  rw [numberThresholdErrors_eq, lateErrors, coverageErrors, sortByMin_of_pairwise (by decide)]
  decide

end Threshold

end ScoringRules
