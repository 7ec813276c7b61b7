import Mathlib.Data.List.Pairwise
import ScoringRules.Proofs.Threshold.Report

/-!
# Overlaps and holes

Coverage is judged by looking at neighbours in the order of lower ends. Two ranges that share a
score make some neighbours overlap, and a score that lies in no range stands in a gap between
neighbours or at an end of the domain, so nothing is missed. Conversely, what is reported as an
overlap is one, but a gap between neighbours may be bridged by a range that starts before both, and
then it is none.

- `exists_overlap_iff` and `exists_gap_around` say what neighbours tell about all of the ranges
- `faults_are_reported` says that neither an overlap nor a hole is missed
- `gaps_unclassified_iff` says when all gaps are holes
-/

namespace ScoringRules.Threshold

section Positions

variable {α β : Type} {relation : α → α → Prop} {entries reordered : List α}

/-- Whether a relation holds between the entries at two different positions. -/
def AtTwoPositions (relation : α → α → Prop) (entries : List α) : Prop :=
  ∃ first second : Fin entries.length, first ≠ second ∧
    relation (entries.get first) (entries.get second)

/-- A relation holds at no two positions when it holds in neither order of any pair. -/
theorem not_atTwoPositions_iff :
    ¬ AtTwoPositions relation entries ↔
      entries.Pairwise fun first second => ¬ relation first second ∧ ¬ relation second first := by
  rw [List.pairwise_iff_getElem]
  constructor
  · intro nowhere first second firstBelow secondBelow before
    constructor
    · exact fun holds =>
        nowhere ⟨⟨first, firstBelow⟩, ⟨second, secondBelow⟩, Fin.ne_of_lt before, holds⟩
    · exact fun holds =>
        nowhere ⟨⟨second, secondBelow⟩, ⟨first, firstBelow⟩, Fin.ne_of_gt before, holds⟩
  · rintro apart ⟨first, second, different, holds⟩
    rcases Nat.lt_or_gt_of_ne (Fin.val_ne_of_ne different) with before | behind
    · exact (apart first second first.isLt second.isLt before).1 holds
    · exact (apart second first second.isLt first.isLt behind).2 holds

/-- In another order, the same relations hold at two positions. -/
theorem atTwoPositions_of_perm (permuted : reordered.Perm entries) :
    AtTwoPositions relation reordered ↔ AtTwoPositions relation entries := by
  rw [← not_iff_not, not_atTwoPositions_iff, not_atTwoPositions_iff]
  exact permuted.pairwise_iff And.symm

/-- A relation of images is a relation of entries. -/
theorem atTwoPositions_map {relation : β → β → Prop} (f : α → β) :
    AtTwoPositions relation (entries.map f) ↔
      AtTwoPositions (fun first second => relation (f first) (f second)) entries := by
  rw [← not_iff_not, not_atTwoPositions_iff, not_atTwoPositions_iff, List.pairwise_map]

/-- A relation across two lists holds at two positions. -/
theorem atTwoPositions_append {earlier later : List α} {first second : α}
    (firstMember : first ∈ earlier) (secondMember : second ∈ later)
    (holds : relation first second) :
    AtTwoPositions relation (earlier ++ later) := by
  by_contra nowhere
  have apart := (List.pairwise_append.mp (not_atTwoPositions_iff.mp nowhere)).2.2
  exact (apart first firstMember second secondMember).1 holds

end Positions

section Neighbours

variable {domain left right low high : Interval} {ranges : List Interval} {first second : Int}

/-- The errors of a sorted list are those of its neighbours. -/
theorem mem_adjacencyErrors_iff {error : CoverageError} :
    error ∈ adjacencyErrors ranges ↔
      ∃ earlier left right later, ranges = earlier ++ left :: right :: later ∧
        error ∈ neighbourErrors left right := by
  rw [← not_iff_not, not_mem_adjacencyErrors_iff, List.isChain_iff_forall_rel_of_append_cons_cons]
  constructor
  · rintro absent ⟨earlier, left, right, later, split, found⟩
    exact absent split found
  · intro absent left right earlier later split found
    exact absent ⟨earlier, left, right, later, split, found⟩

/-- Neighbours have a gap when a score lies between them. -/
theorem gap_mem_neighbourErrors_iff :
    .gap first second ∈ neighbourErrors left right ↔
      left.max + 1 < right.min ∧ first = left.max ∧ second = right.min := by
  unfold neighbourErrors
  split
  · next apart => simp only [List.mem_singleton, CoverageError.gap.injEq, apart, true_and]
  · next close =>
      apply iff_of_false _ fun gap => close gap.1
      split <;> simp only [List.mem_singleton, List.not_mem_nil, reduceCtorEq, not_false_eq_true]

/-- Neighbours overlap when the second one starts inside the first. -/
theorem overlap_mem_neighbourErrors_iff :
    .overlap low high ∈ neighbourErrors left right ↔
      right.min ≤ left.max ∧ low = left ∧ high = right := by
  unfold neighbourErrors
  split
  · next apart =>
      simp only [List.mem_singleton, reduceCtorEq, false_iff, not_and]
      omega
  · split
    · next overlapping =>
        simp only [List.mem_singleton, CoverageError.overlap.injEq, overlapping, true_and]
    · next abutting => exact iff_of_false List.not_mem_nil fun overlap => abutting overlap.1

/-- The ends have a gap when the domain goes further. -/
theorem gap_mem_endErrors_iff :
    .gap first second ∈ endErrors domain ranges ↔
      (highest domain ranges < domain.max ∧ first = domain.max ∧ second = highest domain ranges) ∨
        domain.min < lowest domain ranges ∧ first = lowest domain ranges ∧ second = domain.min := by
  rw [endErrors, List.mem_append]
  apply or_congr
  · split_ifs with short
    · simp only [List.mem_singleton, CoverageError.gap.injEq, short, true_and]
    · simp only [List.not_mem_nil, short, false_and]
  · split_ifs with short
    · simp only [List.mem_singleton, CoverageError.gap.injEq, short, true_and]
    · simp only [List.not_mem_nil, short, false_and]

/-- The ends of the domain do not overlap with anything. -/
theorem overlap_not_mem_endErrors : .overlap low high ∉ endErrors domain ranges := by
  unfold endErrors
  split_ifs <;> simp only [List.mem_append, List.mem_singleton, List.not_mem_nil, reduceCtorEq,
    or_self, not_false_eq_true]

end Neighbours

section Sorted

variable {ranges earlier later : List Interval} {left right : Interval} {score : Int}

/-- Whether two ranges share a score. -/
def Overlaps (left right : Interval) : Prop := ∃ score, score ∈ left ∧ score ∈ right

/-- A range does not overlap with one that lies above it. -/
theorem not_overlaps_of_below (below : left.max < right.min) :
    ¬ Overlaps left right ∧ ¬ Overlaps right left := by
  have disjoint {score : Int} (inLeft : score ∈ left) (inRight : score ∈ right) : False :=
    absurd (inRight.1.trans inLeft.2) (not_le.mpr below)
  exact ⟨fun ⟨_, inLeft, inRight⟩ => disjoint inLeft inRight,
    fun ⟨_, inRight, inLeft⟩ => disjoint inLeft inRight⟩

/-- In a sorted list, neighbours have their lower ends in order. -/
theorem min_le_of_neighbours
    (sorted : (earlier ++ left :: right :: later).Pairwise fun left right => left.min ≤ right.min) :
    left.min ≤ right.min :=
  (List.pairwise_cons.mp (List.pairwise_append.mp sorted).2.1).1 right List.mem_cons_self

/-- Where each range ends below the next one it ends below all later ones, which start even
higher. -/
theorem pairwise_below_of_isChain
    (sorted : ranges.Pairwise fun left right => left.min ≤ right.min)
    (below : ranges.IsChain fun left right => left.max < right.min) :
    ranges.Pairwise fun left right => left.max < right.min := by
  induction below with
  | nil => exact List.Pairwise.nil
  | singleton range => exact List.pairwise_singleton _ range
  | @cons_cons left right later below _ ih =>
      have sortedLater := (List.pairwise_cons.mp sorted).2
      refine List.Pairwise.cons ?_ (ih sortedLater)
      intro range member
      rcases List.mem_cons.mp member with rfl | member
      · exact below
      · exact below.trans_le ((List.pairwise_cons.mp sortedLater).1 range member)

/-- Some neighbours overlap just when two of all ranges do. -/
theorem exists_overlap_iff (sorted : ranges.Pairwise fun left right => left.min ≤ right.min)
    (proper : ∀ range ∈ ranges, range.min ≤ range.max) :
    (∃ left right, .overlap left right ∈ adjacencyErrors ranges) ↔
      AtTwoPositions Overlaps ranges := by
  constructor
  · rintro ⟨low, high, reported⟩
    obtain ⟨earlier, left, right, later, rfl, found⟩ := mem_adjacencyErrors_iff.mp reported
    obtain ⟨reaches, -, -⟩ := overlap_mem_neighbourErrors_iff.mp found
    have rightProper : right.min ≤ right.max := proper right (by simp)
    have overlaps : Overlaps left right :=
      ⟨right.min, ⟨min_le_of_neighbours sorted, reaches⟩, le_rfl, rightProper⟩
    rw [List.append_cons]
    exact atTwoPositions_append (by simp) List.mem_cons_self overlaps
  · contrapose!
    intro unreported
    rw [not_atTwoPositions_iff]
    refine (pairwise_below_of_isChain sorted ?_).imp not_overlaps_of_below
    rw [List.isChain_iff_forall_rel_of_append_cons_cons]
    intro left right earlier later split
    by_contra reaches
    exact unreported left right (mem_adjacencyErrors_iff.mpr ⟨earlier, left, right, later, split,
      overlap_mem_neighbourErrors_iff.mpr ⟨not_lt.mp reaches, rfl, rfl⟩⟩)

/-- A score that lies in no range, but has ranges below and above it, is in a gap between
neighbours. -/
theorem exists_gap_around (sorted : ranges.Pairwise fun left right => left.min ≤ right.min)
    (proper : ∀ range ∈ ranges, range.min ≤ range.max) (outside : ∀ range ∈ ranges, score ∉ range)
    (below : ∃ range ∈ ranges, range.max < score) (above : ∃ range ∈ ranges, score < range.min) :
    ∃ first second, .gap first second ∈ adjacencyErrors ranges ∧
      first < score ∧ score < second := by
  obtain ⟨low, lowMember, below⟩ := below
  obtain ⟨high, highMember, above⟩ := above
  by_contra unreported
  -- Without such a gap no step to the next range leads past the score, so all ranges are below it.
  have onward : ranges.IsChain fun left right => left.max < score → right.max < score := by
    rw [List.isChain_iff_forall_rel_of_append_cons_cons]
    intro left right earlier later split leftBelow
    by_contra reaches
    have rightAbove : score < right.min := by
      by_contra starts
      exact outside right (by simp [split]) ⟨not_lt.mp starts, not_lt.mp reaches⟩
    have apart : left.max + 1 < right.min := by omega
    exact unreported ⟨left.max, right.min, mem_adjacencyErrors_iff.mpr
      ⟨earlier, left, right, later, split, gap_mem_neighbourErrors_iff.mpr ⟨apart, rfl, rfl⟩⟩,
      leftBelow, rightAbove⟩
  have startsBelow (nonempty : ranges ≠ []) : (ranges.head nonempty).max < score := by
    have first : (ranges.head nonempty).min ≤ low.min :=
      sorted.rel_head_of_rel_head_head lowMember le_rfl
    have lowProper := proper low lowMember
    by_contra reaches
    exact outside _ (List.head_mem nonempty) ⟨by omega, by omega⟩
  have allBelow : ∀ range ∈ ranges, range.max < score :=
    onward.induction _ ranges (fun _ _ step => step) startsBelow
  have highProper := proper high highMember
  have highBelow := allBelow high highMember
  omega

/-- Between neighbours no range has a score just when no range before them goes on behind the left
one. -/
theorem between_neighbours_iff
    (sorted : (earlier ++ left :: right :: later).Pairwise fun left right => left.min ≤ right.min)
    (leftProper : left.min ≤ left.max) (apart : left.max + 1 < right.min) :
    (∀ score, left.max < score → score < right.min →
      ∀ range ∈ earlier ++ left :: right :: later, score ∉ range) ↔
      ∀ range ∈ earlier, range.max ≤ left.max := by
  obtain ⟨-, sortedLater, startsBefore⟩ := List.pairwise_append.mp sorted
  have startsBehind := (List.pairwise_cons.mp (List.pairwise_cons.mp sortedLater).2).1
  constructor
  · intro empty range member
    have starts := startsBefore range member left List.mem_cons_self
    by_contra goesOn
    exact empty (left.max + 1) (by omega) apart range (List.mem_append_left _ member)
      ⟨by omega, by omega⟩
  · intro ends score behind before range member found
    obtain ⟨starts, reaches⟩ := found
    simp only [List.mem_append, List.mem_cons] at member
    rcases member with member | rfl | rfl | member
    · have := ends range member
      omega
    · omega
    · omega
    · have := startsBehind range member
      omega

end Sorted

section Coverage

variable {domain : Interval} {ranges : List Interval} {score : Int}

/-- A score of the domain that lies in no range is in a gap between neighbours, or beyond the bound
of a gap at an end of the domain. -/
theorem exists_gap_of_hole (nonempty : ranges ≠ [])
    (proper : ∀ range ∈ ranges, range.min ≤ range.max)
    (inside : ∀ range ∈ ranges, domain.min ≤ range.min ∧ range.max ≤ domain.max)
    (within : score ∈ domain) (outside : ∀ range ∈ ranges, score ∉ range) :
    (∃ first second, .gap first second ∈ coverageErrors domain ranges ∧
        first < score ∧ score < second) ∨
      (∃ reached, .gap domain.max reached ∈ coverageErrors domain ranges ∧ reached < score) ∨
        ∃ reached, .gap reached domain.min ∈ coverageErrors domain ranges ∧ score < reached := by
  have sortedMem {range : Interval} : range ∈ sortByMin ranges ↔ range ∈ ranges :=
    (sortByMin_perm ranges).mem_iff
  obtain ⟨atLeast, atMost⟩ := within
  by_cases above : ∃ range ∈ ranges, score < range.min
  · by_cases below : ∃ range ∈ ranges, range.max < score
    · left
      simp only [← sortedMem] at proper outside below above
      obtain ⟨first, second, reported, around⟩ :=
        exists_gap_around (sortByMin_pairwise ranges) proper outside below above
      exact ⟨first, second, List.mem_append_left _ reported, around⟩
    · -- All ranges lie above the score.
      have higher : score < lowest domain ranges := by
        rw [← not_le, lowest_le_iff]
        rintro (ends | ⟨range, member, starts⟩)
        · obtain ⟨range, member, above⟩ := above
          have := proper range member
          have := inside range member
          omega
        · have reaches : score ≤ range.max := not_lt.mp fun ends => below ⟨range, member, ends⟩
          exact outside range member ⟨starts, reaches⟩
      have short : domain.min < lowest domain ranges := by omega
      exact Or.inr (Or.inr ⟨lowest domain ranges, List.mem_append_right _
        (gap_mem_endErrors_iff.mpr (Or.inr ⟨short, rfl, rfl⟩)), higher⟩)
  · -- All ranges lie below the score.
    have starts (range : Interval) (member : range ∈ ranges) : range.min ≤ score :=
      not_lt.mp fun starts => above ⟨range, member, starts⟩
    have lower : highest domain ranges < score := by
      rw [← not_le, le_highest_iff]
      rintro (begins | ⟨range, member, reaches⟩)
      · obtain ⟨range, member⟩ := List.exists_mem_of_ne_nil ranges nonempty
        have := proper range member
        have := inside range member
        exact outside range member ⟨starts range member, by omega⟩
      · exact outside range member ⟨starts range member, reaches⟩
    have short : highest domain ranges < domain.max := by omega
    exact Or.inr (Or.inl ⟨highest domain ranges, List.mem_append_right _
      (gap_mem_endErrors_iff.mpr (Or.inl ⟨short, rfl, rfl⟩)), lower⟩)

/-- The gaps at the ends of a domain have no range. -/
theorem not_mem_of_endErrors {first second : Int} {range : Interval}
    (reported : .gap first second ∈ endErrors domain ranges) (behind : min first second < score)
    (before : score < max first second) (member : range ∈ ranges) : score ∉ range := by
  rintro ⟨starts, reaches⟩
  rcases gap_mem_endErrors_iff.mp reported with ⟨short, rfl, rfl⟩ | ⟨short, rfl, rfl⟩
  · have bounded : range.max ≤ highest domain ranges :=
      le_highest_iff.mpr (Or.inr ⟨range, member, le_rfl⟩)
    omega
  · have bounded : lowest domain ranges ≤ range.min :=
      lowest_le_iff.mpr (Or.inr ⟨range, member, le_rfl⟩)
    omega

end Coverage

section Reports

variable {domain : Interval} {thresholds : List NumberThreshold}

/-- The ranges that are sorted are proper when no error says otherwise. -/
theorem proper_of_mem_sorted (proper : rangeReport domain thresholds = []) {range : Interval}
    (member : range ∈ sortByMin (rangesOf thresholds)) : range.min ≤ range.max :=
  (rangeReport_eq_nil_iff.mp proper range ((sortByMin_perm _).mem_iff.mp member)).1

/-- The overlaps that are reported are those of neighbours. -/
theorem overlap_mem_coverageReport_iff (nonempty : thresholds ≠ [])
    (proper : rangeReport domain thresholds = []) {left right : Interval} :
    .overlap left right ∈ coverageReport domain thresholds ↔
      .overlap left right ∈ adjacencyErrors (sortByMin (rangesOf thresholds)) := by
  rw [coverageReport_of_proper nonempty proper, coverageErrors, List.mem_append,
    or_iff_left overlap_not_mem_endErrors]

/-- An overlap is reported just when two ranges overlap. -/
theorem exists_overlap_mem_coverageReport_iff (nonempty : thresholds ≠ [])
    (proper : rangeReport domain thresholds = []) :
    (∃ left right, .overlap left right ∈ coverageReport domain thresholds) ↔
      AtTwoPositions Overlaps (rangesOf thresholds) := by
  simp only [overlap_mem_coverageReport_iff nonempty proper]
  rw [exists_overlap_iff (sortByMin_pairwise _) fun _ => proper_of_mem_sorted proper,
    atTwoPositions_of_perm (sortByMin_perm _)]

/-- Whether the report on the coverage of a domain misses nothing that is wrong with it. Two
thresholds that share a score make for an overlap, an overlap is of two thresholds that share a
score, and a score of the domain without a threshold is in a gap between ranges or beyond the bound
of a gap at an end of the domain. -/
structure FaultsReported (domain : Interval) (thresholds : List NumberThreshold) : Prop where
  overlap : (∃ left right, .overlap left right ∈ coverageReport domain thresholds) ↔
    AtTwoPositions (fun first second : NumberThreshold =>
      ∃ score, score ∈ first.range.interval ∧ score ∈ second.range.interval) thresholds
  named : ∀ left right, .overlap left right ∈ coverageReport domain thresholds →
    AtTwoPositions (fun first second : NumberThreshold =>
        first.range.interval = left ∧ second.range.interval = right) thresholds ∧
      left.min ≤ right.min ∧ right.min ∈ left ∧ right.min ∈ right
  hole : ∀ score ∈ domain, (∀ threshold ∈ thresholds, score ∉ threshold.range.interval) →
    (∃ first second, .gap first second ∈ coverageReport domain thresholds ∧
        first < score ∧ score < second) ∨
      (∃ reached, .gap domain.max reached ∈ coverageReport domain thresholds ∧ reached < score) ∨
        ∃ reached, .gap reached domain.min ∈ coverageReport domain thresholds ∧ score < reached

/-- **No overlap and no hole is missed.** Where there are thresholds and nothing is wrong with their
single ranges, what is wrong with the coverage of the domain is reported. -/
theorem faults_are_reported (nonempty : thresholds ≠ [])
    (proper : rangeReport domain thresholds = []) : FaultsReported domain thresholds := by
  refine ⟨?overlap, ?named, ?hole⟩
  case overlap =>
    rw [exists_overlap_mem_coverageReport_iff nonempty proper, rangesOf, atTwoPositions_map]
    rfl
  case named =>
    intro low high reported
    obtain ⟨earlier, left, right, later, split, found⟩ := mem_adjacencyErrors_iff.mp
      ((overlap_mem_coverageReport_iff nonempty proper).mp reported)
    obtain ⟨reaches, rfl, rfl⟩ := overlap_mem_neighbourErrors_iff.mp found
    have ordered : low.min ≤ high.min := min_le_of_neighbours (split ▸ sortByMin_pairwise _)
    have highProper : high.min ≤ high.max := proper_of_mem_sorted proper (by simp [split])
    have neighbours : AtTwoPositions (fun first second => first = low ∧ second = high)
        (sortByMin (rangesOf thresholds)) := by
      rw [split, List.append_cons]
      exact atTwoPositions_append (by simp) List.mem_cons_self ⟨rfl, rfl⟩
    rw [atTwoPositions_of_perm (sortByMin_perm _), rangesOf, atTwoPositions_map] at neighbours
    exact ⟨neighbours, ordered, ⟨ordered, reaches⟩, le_rfl, highProper⟩
  case hole =>
    intro score within unclassified
    have judged := rangeReport_eq_nil_iff.mp proper
    rw [coverageReport_of_proper nonempty proper]
    exact exists_gap_of_hole (mt List.map_eq_nil_iff.mp nonempty)
      (fun range member => (judged range member).1) (fun range member => (judged range member).2)
      within (List.forall_mem_map.mpr unclassified)

/-- Two thresholds overlap, of which one lies in the other, and the scores from 26 to 39 and above
60 have none. -/
def nestedThresholds : List NumberThreshold :=
  [{ range := ⟨40, 60⟩ }, { range := ⟨0, 25⟩ }, { range := ⟨10, 20⟩ }]

/-- The faults of the nested thresholds are all reported. -/
theorem nested_thresholds_faults_reported :
    nestedThresholds ≠ [] ∧ rangeReport percentDomain nestedThresholds = [] ∧
      FaultsReported percentDomain nestedThresholds := by
  have proper : rangeReport percentDomain nestedThresholds = [] := by
    rw [rangeReport_eq]
    decide
  exact ⟨nofun, proper, faults_are_reported nofun proper⟩

end Reports

section Gaps

variable {domain : Interval} {ranges : List Interval} {thresholds : List NumberThreshold}

/-- Whether each reported gap is a hole: the scores strictly between its bounds, in whichever order
these are given, have no threshold. -/
def GapsUnclassified (domain : Interval) (thresholds : List NumberThreshold) : Prop :=
  ∀ first second, .gap first second ∈ coverageReport domain thresholds →
    ∀ score, min first second < score → score < max first second →
      ∀ threshold ∈ thresholds, score ∉ threshold.range.interval

/-- Whether a range, in the order of lower ends, ends before the next one starts, with a score at
least between them, while an earlier range goes on behind its end. -/
def BridgesGap (ranges : List Interval) : Prop :=
  ∃ earlier left right later, sortByMin ranges = earlier ++ left :: right :: later ∧
    left.max + 1 < right.min ∧ ∃ range ∈ earlier, left.max < range.max

/-- Thresholds that bridge a gap are there. -/
theorem BridgesGap.nonempty (bridges : BridgesGap ranges) : ranges ≠ [] := by
  obtain ⟨earlier, left, right, later, split, -, range, member, -⟩ := bridges
  have sortedMember : range ∈ sortByMin ranges := split ▸ List.mem_append_left _ member
  exact List.ne_nil_of_mem ((sortByMin_perm ranges).mem_iff.mp sortedMember)

/-- A range that bridges a gap overlaps with the one that ends there. -/
theorem BridgesGap.overlaps (bridges : BridgesGap ranges)
    (proper : ∀ range ∈ ranges, range.min ≤ range.max) : AtTwoPositions Overlaps ranges := by
  obtain ⟨earlier, left, right, later, split, -, range, member, goesOn⟩ := bridges
  have ordered := (List.pairwise_append.mp (split ▸ sortByMin_pairwise ranges)).2.2
  have startsBefore : range.min ≤ left.min := ordered range member left List.mem_cons_self
  have leftMember : left ∈ sortByMin ranges := by simp [split]
  have leftProper := proper left ((sortByMin_perm ranges).mem_iff.mp leftMember)
  have overlaps : Overlaps range left :=
    ⟨left.min, ⟨startsBefore, by omega⟩, le_rfl, leftProper⟩
  rw [← atTwoPositions_of_perm (sortByMin_perm ranges), split]
  exact atTwoPositions_append member List.mem_cons_self overlaps

/-- Of proper ranges, all reported gaps are holes when no range bridges one. -/
theorem gapsUnclassified_iff_of_proper (proper : rangeReport domain thresholds = []) :
    GapsUnclassified domain thresholds ↔ ¬ BridgesGap (rangesOf thresholds) := by
  have sorted := sortByMin_pairwise (rangesOf thresholds)
  have sortedMem {range : Interval} :
      range ∈ sortByMin (rangesOf thresholds) ↔ range ∈ rangesOf thresholds :=
    (sortByMin_perm _).mem_iff
  constructor
  · intro unclassified bridges
    have nonempty : thresholds ≠ [] := mt List.map_eq_nil_iff.mpr bridges.nonempty
    obtain ⟨earlier, left, right, later, split, apart, range, member, goesOn⟩ := bridges
    have leftProper : left.min ≤ left.max := proper_of_mem_sorted proper (by simp [split])
    have reported : .gap left.max right.min ∈ coverageReport domain thresholds := by
      rw [coverageReport_of_proper nonempty proper]
      exact List.mem_append_left _ (mem_adjacencyErrors_iff.mpr
        ⟨earlier, left, right, later, split, gap_mem_neighbourErrors_iff.mpr ⟨apart, rfl, rfl⟩⟩)
    have ends : ∀ range ∈ earlier, range.max ≤ left.max := by
      refine (between_neighbours_iff (split ▸ sorted) leftProper apart).mp ?_
      intro score behind before range member
      rw [← split, sortedMem] at member
      obtain ⟨threshold, found, rfl⟩ := List.mem_map.mp member
      exact unclassified _ _ reported score (by omega) (by omega) threshold found
    exact absurd (ends range member) (not_le.mpr goesOn)
  · intro unbridged first second reported score behind before threshold member
    have inRanges : threshold.range.interval ∈ rangesOf thresholds := List.mem_map_of_mem member
    rw [coverageReport_of_proper (List.ne_nil_of_mem member) proper] at reported
    rcases List.mem_append.mp reported with reported | reported
    · obtain ⟨earlier, left, right, later, split, found⟩ := mem_adjacencyErrors_iff.mp reported
      obtain ⟨apart, rfl, rfl⟩ := gap_mem_neighbourErrors_iff.mp found
      have leftProper : left.min ≤ left.max := proper_of_mem_sorted proper (by simp [split])
      have ends (range : Interval) (member : range ∈ earlier) : range.max ≤ left.max :=
        not_lt.mp fun goesOn =>
          unbridged ⟨earlier, left, right, later, split, apart, range, member, goesOn⟩
      rw [← sortedMem, split] at inRanges
      exact (between_neighbours_iff (split ▸ sorted) leftProper apart).mpr ends score (by omega)
        (by omega) _ inRanges
    · exact not_mem_of_endErrors reported behind before inRanges

/-- **Which gaps are holes.** The scores of all reported gaps have no threshold exactly when
something is reported about single ranges, and no gaps are, or no range bridges a gap. In particular
they have none when no overlap is reported. -/
theorem gaps_unclassified_iff (domain : Interval) (thresholds : List NumberThreshold) :
    (GapsUnclassified domain thresholds ↔
        rangeReport domain thresholds ≠ [] ∨ ¬ BridgesGap (rangesOf thresholds)) ∧
      ((∀ left right, .overlap left right ∉ coverageReport domain thresholds) →
        GapsUnclassified domain thresholds) := by
  by_cases proper : rangeReport domain thresholds = []
  · rw [gapsUnclassified_iff_of_proper proper, or_iff_right (not_not.mpr proper)]
    refine ⟨Iff.rfl, fun separate bridges => ?_⟩
    have nonempty : thresholds ≠ [] := mt List.map_eq_nil_iff.mpr bridges.nonempty
    have overlaps : AtTwoPositions Overlaps (rangesOf thresholds) :=
      bridges.overlaps fun range member => (rangeReport_eq_nil_iff.mp proper range member).1
    obtain ⟨left, right, reported⟩ :=
      (exists_overlap_mem_coverageReport_iff nonempty proper).mpr overlaps
    exact separate left right reported
  · have unreported : coverageReport domain thresholds = [] :=
      (rangeReport_eq_nil_or_coverageReport_eq_nil domain thresholds).resolve_left proper
    have holes : GapsUnclassified domain thresholds := by
      intro first second reported
      rw [unreported] at reported
      exact absurd reported List.not_mem_nil
    exact ⟨iff_of_true holes (Or.inl proper), fun _ => holes⟩

/-- Thresholds that leave out the scores from 41 to 59 and above 90. -/
def separateThresholds : List NumberThreshold :=
  [{ range := ⟨0, 40⟩ }, { range := ⟨60, 90⟩ }]

/-- The gaps of separate thresholds hold unclassified scores only. -/
theorem separate_thresholds_gaps_unclassified :
    coverageReport percentDomain separateThresholds = [.gap 40 60, .gap 100 90] ∧
      (∀ left right, .overlap left right ∉ coverageReport percentDomain separateThresholds) ∧
      GapsUnclassified percentDomain separateThresholds := by
  have reported : coverageReport percentDomain separateThresholds = [.gap 40 60, .gap 100 90] := by
    rw [coverageReport_eq, lateErrors, coverageErrors, sortByMin_of_pairwise (by decide)]
    decide
  have separate : ∀ left right,
      .overlap left right ∉ coverageReport percentDomain separateThresholds := by
    simp [reported]
  exact ⟨reported, separate, (gaps_unclassified_iff _ _).2 separate⟩

/-- Every score from 0 to 100 has a threshold, and the first threshold goes on behind the end of the
second one. -/
def bridgedThresholds : List NumberThreshold :=
  [{ range := ⟨0, 25⟩ }, { range := ⟨10, 20⟩ }, { range := ⟨26, 100⟩ }]

/-- The scores from 21 to 25 are reported as a gap, although they have a threshold. -/
theorem bridged_gap_is_classified :
    coverageReport percentDomain bridgedThresholds = [.overlap ⟨0, 25⟩ ⟨10, 20⟩, .gap 20 26] ∧
      (∀ score ∈ percentDomain, ∃ threshold ∈ bridgedThresholds,
        score ∈ threshold.range.interval) ∧
      ¬ GapsUnclassified percentDomain bridgedThresholds := by
  have reported : coverageReport percentDomain bridgedThresholds =
      [.overlap ⟨0, 25⟩ ⟨10, 20⟩, .gap 20 26] := by
    rw [coverageReport_eq, lateErrors, coverageErrors, sortByMin_of_pairwise (by decide)]
    decide
  refine ⟨reported, ?_, fun unclassified => ?_⟩
  · rintro score ⟨atLeast, atMost⟩
    by_cases low : score ≤ 25
    · exact ⟨{ range := ⟨0, 25⟩ }, by decide, atLeast, low⟩
    · exact ⟨{ range := ⟨26, 100⟩ }, by decide, not_le.mp low, atMost⟩
  · have gap : .gap 20 26 ∈ coverageReport percentDomain bridgedThresholds := by
      rw [reported]
      decide
    exact unclassified 20 26 gap 21 (by decide) (by decide) { range := ⟨0, 25⟩ } (by decide)
      (by decide)

end Gaps

end ScoringRules.Threshold
