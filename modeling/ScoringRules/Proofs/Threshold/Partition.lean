import Mathlib.Data.Fin.SuccPred
import Mathlib.Data.Int.Order.Basic
import Mathlib.Data.List.Chain
import Mathlib.Order.MinMax
import ScoringRules.Validation.Definition

/-!
# Coverage is partition

Numeric thresholds are free of errors exactly when there are none or their ranges partition the
domain. The check looks at neighbours in the order of their lower ends only, so the argument goes
through that order: neighbours without errors abut, and ranges that abut all along contain each
score between the outermost ends once.

- `Threshold.Partitions` is the global condition, which speaks about single scores
- `Threshold.Abuts` is the local condition on neighbours
- `Threshold.numberErrors_eq_nil_iff` relates the two
-/

namespace ScoringRules

namespace Threshold

/-- Ranges partition a domain: each is a proper interval inside the domain, and each score of the
domain lies in the range at exactly one position. -/
structure Partitions (domain : Interval) (ranges : List Interval) : Prop where
  proper : ∀ range ∈ ranges, range.min ≤ range.max
  inside : ∀ range ∈ ranges, domain.min ≤ range.min ∧ range.max ≤ domain.max
  once : ∀ score ∈ domain, ∃! position : Fin ranges.length, score ∈ ranges[position]

/-- A range ends directly below the next one. -/
def Abuts (left right : Interval) : Prop := left.max + 1 = right.min

section Counting

/-- The number of positions whose range contains a score. -/
def hits (ranges : List Interval) (score : Int) : Nat := ranges.countP fun range => score ∈ range

/-- No range classifies nothing. -/
@[simp]
theorem hits_nil (score : Int) : hits [] score = 0 := rfl

/-- One more range classifies a score once more when it has it. -/
@[simp]
theorem hits_cons (range : Interval) (later : List Interval) (score : Int) :
    hits (range :: later) score = hits later score + if score ∈ range then 1 else 0 := by
  simp only [hits, List.countP_cons, decide_eq_true_eq]

/-- A score is classified by both lists. -/
@[simp]
theorem hits_append (earlier later : List Interval) (score : Int) :
    hits (earlier ++ later) score = hits earlier score + hits later score :=
  List.countP_append

/-- The order of ranges does not matter to how often a score is classified. -/
theorem hits_of_perm {left right : List Interval} (reordered : left.Perm right) (score : Int) :
    hits left score = hits right score :=
  reordered.countP_eq _

/-- A score is classified when some range has it. -/
theorem hits_pos_iff {ranges : List Interval} {score : Int} :
    0 < hits ranges score ↔ ∃ range ∈ ranges, score ∈ range := by
  simp only [hits, List.countP_pos_iff, decide_eq_true_eq]

/-- A property holds at exactly one position of a list when it is counted once. -/
theorem existsUnique_position_iff {α : Type} (property : α → Prop) [DecidablePred property]
    (values : List α) :
    (∃! position : Fin values.length, property values[position]) ↔
      values.countP (fun value => property value) = 1 := by
  induction values with
  | nil =>
      constructor
      · rintro ⟨position, -, -⟩
        exact position.elim0
      · intro counted
        exact absurd counted Nat.zero_ne_one
  | cons value later ih =>
      by_cases here : property value
      · simp only [List.countP_cons, here, decide_true, ↓reduceIte, Nat.add_eq_right,
          List.countP_eq_zero, decide_eq_true_eq, List.forall_mem_iff_getElem]
        constructor
        · rintro ⟨position, -, unique⟩ index below found
          have first := unique 0 here
          have second := unique (Fin.succ ⟨index, below⟩) found
          exact Fin.succ_ne_zero _ (second.trans first.symm)
        · intro absent
          refine ⟨0, here, fun other found => ?_⟩
          cases other using Fin.cases with
          | zero => rfl
          | succ other => exact absurd found (absent other other.isLt)
      · simp only [List.countP_cons, here, decide_false, Bool.false_eq_true, ↓reduceIte,
          Nat.add_zero, ← ih]
        constructor
        · rintro ⟨position, found, unique⟩
          cases position using Fin.cases with
          | zero => exact absurd found here
          | succ position =>
              exact ⟨position, found, fun other also => Fin.succ_injective _ (unique _ also)⟩
        · rintro ⟨position, found, unique⟩
          refine ⟨position.succ, found, fun other also => ?_⟩
          cases other using Fin.cases with
          | zero => exact absurd also here
          | succ other => exact congrArg Fin.succ (unique other also)

/-- A score lies in the range at exactly one position when it is counted once. -/
theorem existsUnique_mem_iff {ranges : List Interval} {score : Int} :
    (∃! position : Fin ranges.length, score ∈ ranges[position]) ↔ hits ranges score = 1 :=
  existsUnique_position_iff (fun range => score ∈ range) ranges

end Counting

section Checks

/-- A range is fine when its ends are in order and in the domain. -/
theorem rangeErrors_eq_nil_iff {domain range : Interval} :
    rangeErrors domain range = [] ↔
      range.min ≤ range.max ∧ domain.min ≤ range.min ∧ range.max ≤ domain.max := by
  have member (score : Int) : score ∈ domain ↔ domain.min ≤ score ∧ score ≤ domain.max := Iff.rfl
  unfold rangeErrors
  split
  · simp only [reduceCtorEq, false_iff]
    omega
  · simp only [List.append_eq_nil_iff, ite_eq_left_iff, reduceCtorEq, imp_false, not_not, member]
    omega

/-- Neighbours are fine when they abut. -/
theorem neighbourErrors_eq_nil_iff {left right : Interval} :
    neighbourErrors left right = [] ↔ Abuts left right := by
  unfold neighbourErrors Abuts
  split
  · simp only [reduceCtorEq, false_iff]
    omega
  · split
    · simp only [reduceCtorEq, false_iff]
      omega
    · simp only [true_iff]
      omega

/-- An error is passed over by the check of neighbours when it is by the check of each two of
them. -/
theorem not_mem_adjacencyErrors_iff {ranges : List Interval} {error : CoverageError} :
    error ∉ adjacencyErrors ranges ↔
      ranges.IsChain fun left right => error ∉ neighbourErrors left right := by
  fun_induction adjacencyErrors ranges with
  | case1 => simp only [List.not_mem_nil, not_false_eq_true, List.IsChain.nil]
  | case2 range => simp only [List.not_mem_nil, not_false_eq_true, List.IsChain.singleton]
  | case3 left right later ih => rw [List.mem_append, not_or, ih, List.isChain_cons_cons]

/-- A sorted list is fine when it is a chain of ranges that abut. -/
theorem adjacencyErrors_eq_nil_iff {ranges : List Interval} :
    adjacencyErrors ranges = [] ↔ ranges.IsChain Abuts := by
  simp only [List.eq_nil_iff_forall_not_mem, not_mem_adjacencyErrors_iff,
    List.isChain_iff_forall_rel_of_append_cons_cons, ← neighbourErrors_eq_nil_iff]
  constructor
  · intro passed left right earlier later split error
    exact passed error split
  · intro passed error left right earlier later split
    exact passed split error

/-- The greatest upper end reaches a bound when the domain's lower end or some range does. -/
theorem le_highest_iff {domain : Interval} {ranges : List Interval} {bound : Int} :
    bound ≤ highest domain ranges ↔
      bound ≤ domain.min ∨ ∃ range ∈ ranges, bound ≤ range.max := by
  have folded (start : Int) : bound ≤ ranges.foldl (fun greatest range => max greatest range.max)
      start ↔ bound ≤ start ∨ ∃ range ∈ ranges, bound ≤ range.max := by
    induction ranges generalizing start with
    | nil => simp only [List.foldl_nil, List.not_mem_nil, false_and, exists_false, or_false]
    | cons range later ih =>
        simp only [List.foldl_cons, ih, le_max_iff, List.mem_cons, exists_eq_or_imp, or_assoc]
  exact folded domain.min

/-- The least lower end is within a bound when the domain's upper end or some range is. -/
theorem lowest_le_iff {domain : Interval} {ranges : List Interval} {bound : Int} :
    lowest domain ranges ≤ bound ↔
      domain.max ≤ bound ∨ ∃ range ∈ ranges, range.min ≤ bound := by
  have folded (start : Int) : ranges.foldl (fun least range => min least range.min) start ≤ bound ↔
      start ≤ bound ∨ ∃ range ∈ ranges, range.min ≤ bound := by
    induction ranges generalizing start with
    | nil => simp only [List.foldl_nil, List.not_mem_nil, false_and, exists_false, or_false]
    | cons range later ih =>
        simp only [List.foldl_cons, ih, min_le_iff, List.mem_cons, exists_eq_or_imp, or_assoc]
  exact folded domain.max

/-- The ends are fine when the ranges reach those of the domain. -/
theorem endErrors_eq_nil_iff {domain : Interval} {ranges : List Interval} :
    endErrors domain ranges = [] ↔
      domain.max ≤ highest domain ranges ∧ lowest domain ranges ≤ domain.min := by
  simp only [endErrors, List.append_eq_nil_iff, ite_eq_right_iff, reduceCtorEq, imp_false, not_lt]

/-- Sorting reorders. -/
theorem sortByMin_perm (ranges : List Interval) : (sortByMin ranges).Perm ranges :=
  List.mergeSort_perm ranges _

/-- Sorting puts the lower ends in order. -/
theorem sortByMin_pairwise (ranges : List Interval) :
    (sortByMin ranges).Pairwise fun left right => left.min ≤ right.min := by
  unfold sortByMin
  refine (List.pairwise_mergeSort (fun left middle right => ?_) (fun left right => ?_) ranges).imp
    of_decide_eq_true
  · simp only [decide_eq_true_eq]
    exact Int.le_trans
  · simp only [Bool.or_eq_true, decide_eq_true_eq]
    exact Int.le_total left.min right.min

/-- A sorted list stays as it is. -/
theorem sortByMin_of_pairwise {ranges : List Interval}
    (sorted : ranges.Pairwise fun left right => left.min ≤ right.min) : sortByMin ranges = ranges :=
  List.mergeSort_of_pairwise (sorted.imp decide_eq_true)

end Checks

section Chains

/-- Proper ranges that abut all along contain each score from the first lower end to the last upper
end once, and no other score. -/
theorem hits_of_abutting {first : Interval} {later : List Interval}
    (proper : ∀ range ∈ first :: later, range.min ≤ range.max)
    (abutting : (first :: later).IsChain Abuts) :
    ∃ last ∈ first :: later, first.min ≤ last.max ∧
      (∀ range ∈ first :: later, first.min ≤ range.min ∧ range.max ≤ last.max) ∧
      ∀ score, hits (first :: later) score =
        if first.min ≤ score ∧ score ≤ last.max then 1 else 0 := by
  induction later generalizing first with
  | nil =>
      refine ⟨first, List.mem_singleton_self first, proper first (List.mem_singleton_self first),
        ?_, fun score => ?_⟩
      · intro range member
        obtain rfl := List.mem_singleton.mp member
        exact ⟨le_rfl, le_rfl⟩
      · simp only [hits_cons, hits_nil, Nat.zero_add]
        rfl
  | cons second rest ih =>
      rw [List.isChain_cons_cons] at abutting
      obtain ⟨abuts, abutting⟩ := abutting
      obtain ⟨last, member, above, bounds, counted⟩ :=
        ih (fun range member => proper range (List.mem_cons_of_mem first member)) abutting
      have firstProper := proper first List.mem_cons_self
      unfold Abuts at abuts
      refine ⟨last, List.mem_cons_of_mem first member, by omega, ?_, fun score => ?_⟩
      · intro range inside
        rcases List.mem_cons.mp inside with rfl | inside
        · omega
        · have := bounds range inside
          omega
      · -- The first range and the rest meet directly at the lower end of the second one.
        have membership : score ∈ first ↔ first.min ≤ score ∧ score ≤ first.max := Iff.rfl
        rw [hits_cons, counted score]
        simp only [membership]
        split_ifs <;> omega

/-- Proper ranges that abut all along and reach both ends of a domain partition it. -/
theorem hits_of_reaching {domain : Interval} {ranges : List Interval}
    (proper : ∀ range ∈ ranges, range.min ≤ range.max) (abutting : ranges.IsChain Abuts)
    (low : ∃ range ∈ ranges, range.min ≤ domain.min)
    (high : ∃ range ∈ ranges, domain.max ≤ range.max) {score : Int} (member : score ∈ domain) :
    hits ranges score = 1 := by
  obtain ⟨lowest, lowestMember, low⟩ := low
  obtain ⟨highest, highestMember, high⟩ := high
  cases ranges with
  | nil => exact absurd lowestMember List.not_mem_nil
  | cons first later =>
      obtain ⟨last, -, -, bounds, counted⟩ := hits_of_abutting proper abutting
      obtain ⟨above, below⟩ := member
      have firstLow := (bounds lowest lowestMember).1
      have lastHigh := (bounds highest highestMember).2
      rw [counted score, if_pos]
      omega

/-- In a partition of a domain, neighbours in the order of their lower ends abut: a shared score
would be counted twice, and a score between them would have to lie in a range that also contains the
left one. -/
theorem abuts_of_hits {domain left right : Interval} {earlier later : List Interval}
    (sorted : (earlier ++ left :: right :: later).Pairwise fun first second =>
      first.min ≤ second.min)
    (proper : ∀ range ∈ earlier ++ left :: right :: later, range.min ≤ range.max)
    (inside : ∀ range ∈ earlier ++ left :: right :: later,
      domain.min ≤ range.min ∧ range.max ≤ domain.max)
    (once : ∀ score ∈ domain, hits (earlier ++ left :: right :: later) score = 1) :
    Abuts left right := by
  have leftMember : left ∈ earlier ++ left :: right :: later := by simp
  have rightMember : right ∈ earlier ++ left :: right :: later := by simp
  have leftProper := proper left leftMember
  have rightProper := proper right rightMember
  have leftInside := inside left leftMember
  have rightInside := inside right rightMember
  have twice (score : Int) (within : score ∈ domain) :
      hits earlier score + ((hits later score + if score ∈ right then 1 else 0) +
        if score ∈ left then 1 else 0) = 1 := by
    have counted := once score within
    rwa [hits_append, hits_cons, hits_cons] at counted
  have ordered := List.pairwise_append.mp sorted
  have leftFirst : left.min ≤ right.min :=
    (List.pairwise_cons.mp ordered.2.1).1 right List.mem_cons_self
  unfold Abuts
  apply le_antisymm
  · -- Otherwise the lower end of the right range lies in both.
    by_contra overlap
    have counted := twice right.min ⟨by omega, by omega⟩
    rw [if_pos (show right.min ∈ right from ⟨le_rfl, rightProper⟩),
      if_pos (show right.min ∈ left from ⟨leftFirst, by omega⟩)] at counted
    omega
  · -- Otherwise the score above the left range lies in an earlier range, which holds all of it.
    by_contra gap
    have counted := twice (left.max + 1) ⟨by omega, by omega⟩
    rw [if_neg (fun found : left.max + 1 ∈ right => by have := found.1; omega),
      if_neg (fun found : left.max + 1 ∈ left => by have := found.2; omega)] at counted
    have notLater : hits later (left.max + 1) = 0 := by
      rw [← Nat.le_zero, ← Nat.not_lt, hits_pos_iff]
      rintro ⟨range, member, found⟩
      have behind := (List.pairwise_cons.mp (List.pairwise_cons.mp ordered.2.1).2).1 range member
      have := found.1
      omega
    obtain ⟨range, member, found⟩ := hits_pos_iff.mp (show 0 < hits earlier (left.max + 1) by omega)
    have before := ordered.2.2 range member left List.mem_cons_self
    have shared : 0 < hits earlier left.min :=
      hits_pos_iff.mpr ⟨range, member, before, le_trans (by omega) found.2⟩
    have countedLow := twice left.min ⟨by omega, by omega⟩
    rw [if_pos (show left.min ∈ left from ⟨le_rfl, leftProper⟩)] at countedLow
    omega

end Chains

section Coverage

variable {domain : Interval} {ranges : List Interval}

/-- For proper ranges inside the domain, of which there is one at least, the local checks find
nothing exactly when each score of the domain is counted once. -/
theorem coverageErrors_eq_nil_iff (nonempty : ranges ≠ [])
    (proper : ∀ range ∈ ranges, range.min ≤ range.max)
    (inside : ∀ range ∈ ranges, domain.min ≤ range.min ∧ range.max ≤ domain.max) :
    coverageErrors domain ranges = [] ↔ ∀ score ∈ domain, hits ranges score = 1 := by
  have sortedMem {range : Interval} : range ∈ sortByMin ranges ↔ range ∈ ranges :=
    (sortByMin_perm ranges).mem_iff
  obtain ⟨witness, witnessMember⟩ := List.exists_mem_of_ne_nil ranges nonempty
  have witnessProper := proper witness witnessMember
  have witnessInside := inside witness witnessMember
  rw [coverageErrors, List.append_eq_nil_iff, adjacencyErrors_eq_nil_iff, endErrors_eq_nil_iff,
    le_highest_iff, lowest_le_iff]
  constructor
  · rintro ⟨abutting, high, low⟩ score member
    rw [← hits_of_perm (sortByMin_perm ranges) score]
    refine hits_of_reaching (fun range member => proper range (sortedMem.mp member)) abutting
      ?_ ?_ member
    · rcases low with single | ⟨range, member, low⟩
      · exact ⟨witness, sortedMem.mpr witnessMember, by omega⟩
      · exact ⟨range, sortedMem.mpr member, low⟩
    · rcases high with single | ⟨range, member, high⟩
      · exact ⟨witness, sortedMem.mpr witnessMember, by omega⟩
      · exact ⟨range, sortedMem.mpr member, high⟩
  · intro once
    have covered (score : Int) (within : score ∈ domain) : ∃ range ∈ ranges, score ∈ range :=
      hits_pos_iff.mp (by rw [once score within]; exact Nat.one_pos)
    refine ⟨List.isChain_iff_forall_rel_of_append_cons_cons.mpr ?_, Or.inr ?_, Or.inr ?_⟩
    · intro left right earlier later split
      have once' : ∀ score ∈ domain, hits (earlier ++ left :: right :: later) score = 1 := by
        intro score within
        rw [← split, hits_of_perm (sortByMin_perm ranges), once score within]
      exact abuts_of_hits (split ▸ sortByMin_pairwise ranges)
        (fun range member => proper range (sortedMem.mp (split ▸ member)))
        (fun range member => inside range (sortedMem.mp (split ▸ member))) once'
    · obtain ⟨range, member, found⟩ := covered domain.max ⟨by omega, le_rfl⟩
      exact ⟨range, member, found.2⟩
    · obtain ⟨range, member, found⟩ := covered domain.min ⟨le_rfl, by omega⟩
      exact ⟨range, member, found.1⟩

/-- What is reported about coverage, which is looked at when there are ranges and each of them is
proper. -/
def lateErrors (domain : Interval) (ranges : List Interval) : List CoverageError :=
  if ranges ≠ [] ∧ ranges.flatMap (rangeErrors domain) = [] then coverageErrors domain ranges
  else []

/-- What is reported about single ranges comes first. -/
theorem numberErrors_eq (domain : Interval) (ranges : List Interval) :
    numberErrors domain ranges =
      (ranges.flatMap (rangeErrors domain)).map .range ++
        (lateErrors domain ranges).map .coverage := by
  rw [numberErrors, lateErrors]
  by_cases empty : ranges = []
  · rw [if_pos empty, if_neg fun entered => entered.1 empty, empty]
    rfl
  · rw [if_neg empty]
    split
    · next proper => rw [if_pos ⟨empty, proper⟩, proper, List.map_nil, List.nil_append]
    · next improper =>
        rw [if_neg fun entered => improper entered.2, List.map_nil, List.append_nil]

/-- Ranges are fine when each is proper and together they cover the domain. -/
theorem numberErrors_eq_nil_iff_checks (nonempty : ranges ≠ []) :
    numberErrors domain ranges = [] ↔
      (∀ range ∈ ranges, rangeErrors domain range = []) ∧ coverageErrors domain ranges = [] := by
  rw [numberErrors_eq, List.append_eq_nil_iff, List.map_eq_nil_iff, List.map_eq_nil_iff,
    ← List.flatMap_eq_nil_iff]
  apply and_congr_right
  intro proper
  rw [lateErrors, if_pos ⟨nonempty, proper⟩]

/-- The check passes exactly when there are no ranges or they partition the domain. -/
theorem numberErrors_eq_nil_iff :
    numberErrors domain ranges = [] ↔ ranges = [] ∨ Partitions domain ranges := by
  by_cases empty : ranges = []
  · simp only [empty, numberErrors, ↓reduceIte, true_or]
  · rw [numberErrors_eq_nil_iff_checks empty, or_iff_right empty]
    simp only [rangeErrors_eq_nil_iff]
    constructor
    · intro passed
      obtain ⟨judged, covered⟩ := passed
      have proper := fun range member => (judged range member).1
      have inside := fun range member => (judged range member).2
      refine ⟨proper, inside, fun score within => ?_⟩
      rw [existsUnique_mem_iff]
      exact (coverageErrors_eq_nil_iff empty proper inside).mp covered score within
    · intro partition
      obtain ⟨proper, inside, once⟩ := partition
      refine ⟨fun range member => ⟨proper range member, inside range member⟩, ?_⟩
      apply (coverageErrors_eq_nil_iff empty proper inside).mpr
      intro score within
      rw [← existsUnique_mem_iff]
      exact once score within

end Coverage

end Threshold

/-- **Coverage is partition.** Whatever the bounds of the domain are, the check of numeric
thresholds finds nothing exactly when there are none, or each range is the right way round and
inside the domain and each integer of the domain lies in the range at exactly one position. -/
theorem numberThresholdErrors_eq_nil_iff (low high : Int32) (thresholds : List NumberThreshold) :
    numberThresholdErrors ⟨low.toInt, high.toInt⟩ thresholds = [] ↔
      thresholds = [] ∨
        (∀ threshold ∈ thresholds, threshold.range.min ≤ threshold.range.max) ∧
        (∀ threshold ∈ thresholds, low ≤ threshold.range.min ∧ threshold.range.max ≤ high) ∧
        ∀ score : Int, low.toInt ≤ score → score ≤ high.toInt →
          ∃! position : Fin thresholds.length,
            thresholds[position].range.min.toInt ≤ score ∧
              score ≤ thresholds[position].range.max.toInt := by
  rw [numberThresholdErrors, List.map_eq_nil_iff, Threshold.numberErrors_eq_nil_iff,
    List.map_eq_nil_iff]
  apply or_congr Iff.rfl
  have counted (score : Int) :
      (∃! position : Fin thresholds.length, thresholds[position].range.min.toInt ≤ score ∧
        score ≤ thresholds[position].range.max.toInt) ↔
      Threshold.hits (thresholds.map fun threshold => threshold.range.interval) score = 1 := by
    rw [Threshold.existsUnique_position_iff fun threshold : NumberThreshold =>
      threshold.range.min.toInt ≤ score ∧ score ≤ threshold.range.max.toInt, Threshold.hits,
      List.countP_map]
    rfl
  simp only [Int32.le_iff_toInt_le, counted]
  constructor
  · intro partition
    obtain ⟨proper, inside, once⟩ := partition
    rw [List.forall_mem_map] at proper inside
    exact ⟨proper, inside, fun score above below =>
      Threshold.existsUnique_mem_iff.mp (once score ⟨above, below⟩)⟩
  · intro conditions
    obtain ⟨proper, inside, once⟩ := conditions
    refine ⟨List.forall_mem_map.mpr proper, List.forall_mem_map.mpr inside, fun score within => ?_⟩
    exact Threshold.existsUnique_mem_iff.mpr (once score within.1 within.2)

end ScoringRules
