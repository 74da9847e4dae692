import PredictiveScaling.Proofs.Evaluation.Goal
import PredictiveScaling.Proofs.Replicas.Sum
import Mathlib.Algebra.BigOperators.Ring.List
import Mathlib.Algebra.Order.BigOperators.Group.List
import Mathlib.Order.Bounds.Basic

/-!
# The target of a goal

In the exact numbers the target of some shares is the weighted mean of their counts at the
step where it is highest, and one more where something is left over: the least count that
times the whole weight covers the load of every step. The words in which a goal is computed
come to the same (`ofShares?_of_moderate`) as long as weights and counts are in their
documented ranges and there are not too many metrics.
-/
namespace PredictiveScaling.Goal

variable {l : List Share} {i : Nat}

/-! ## The exact numbers -/

/-- The whole weight. -/
def weightOf (l : List Share) : Int := (l.map fun s => s.metric.weight.toInt).sum

/-- What a metric asks for at a step, times its weight. -/
def Share.loadAt (i : Nat) (s : Share) : Int :=
  s.metric.weight.toInt * ((s.counts[i]?).getD 0).toInt

/-- What all metrics ask for at a step. -/
def loadAt (l : List Share) (i : Nat) : Int := (l.map (Share.loadAt i)).sum

/-- The number of steps that all metrics have in common. -/
def horizon (l : List Share) : Nat := shortestLength (l.map Share.counts)

/-- The counts that matter: those of metrics with a weight, up to the common horizon. -/
def weighedCounts (l : List Share) : List Int32 :=
  (l.filter fun s => decide (0 < s.metric.weight)).flatMap fun s => s.counts.take (horizon l)

/-- Weights in their documented range, some counts for each metric, and not too many
metrics. -/
structure Moderate (l : List Share) : Prop where
  few : l.length < 16777216
  weight_mem : ∀ s ∈ l, 0 ≤ s.metric.weight ∧ s.metric.weight ≤ 100
  weighed : 0 < weightOf l
  counts_ne_nil : ∀ s ∈ l, s.counts ≠ []
  counts_nonneg : ∀ s ∈ l, ∀ n ∈ s.counts, 0 ≤ n

/-! ## The words -/

/-- The weighted sum at a step, a 64-bit word. -/
def sumAt (l : List Share) (i : Nat) : Int64 :=
  l.foldl (fun sum s => sum + s.metric.weight.toInt64 * ((s.counts[i]?).getD 0).toInt64) 0

/-- The weighted sums of all steps. -/
def sums (l : List Share) : List Int64 :=
  weightedSum (l.map fun s => (s.metric.weight, s.counts))

theorem sums_eq_map (l : List Share) : sums l = (List.range (horizon l)).map (sumAt l) := by
  have hsnd : (l.map fun s => (s.metric.weight, s.counts)).map Prod.snd = l.map Share.counts := by
    rw [List.map_map]
    rfl
  rw [sums, weightedSum, hsnd, horizon]
  refine List.map_congr_left fun i _ => ?_
  rw [List.foldl_map, sumAt]

/-- None of the words on the way to the target wraps: no sum of weights, no product of a
weight and a count, no weighted sum, and none of the two steps that round up. -/
structure NeverWraps (l : List Share) : Prop where
  weights : ∀ k, (totalWeight (l.take k)).toInt = weightOf (l.take k)
  products : ∀ s ∈ l, ∀ n ∈ s.counts,
    (s.metric.weight.toInt64 * n.toInt64).toInt = s.metric.weight.toInt * n.toInt
  sums : ∀ i k, (sumAt (l.take k) i).toInt = loadAt (l.take k) i
  rounding : ∀ i, (sumAt l i + totalWeight l).toInt = loadAt l i + weightOf l ∧
    (sumAt l i + totalWeight l - 1).toInt = loadAt l i + weightOf l - 1

/-! ## Words of moderate shares -/

/-- The largest product of a weight and a count. -/
def loadBound : Int := 100 * 2147483647

theorem loadBound_nonneg : 0 ≤ loadBound := by
  rw [loadBound]
  omega

theorem Moderate.weight_bounds (h : Moderate l) {s : Share} (hs : s ∈ l) :
    0 ≤ s.metric.weight.toInt ∧ s.metric.weight.toInt ≤ 100 := by
  obtain ⟨hlo, hhi⟩ := h.weight_mem s hs
  exact ⟨Int32.le_iff_toInt_le.1 hlo, Int32.le_iff_toInt_le.1 hhi⟩

/-- A count that is missing counts as zero. -/
theorem Moderate.count_nonneg (h : Moderate l) {s : Share} (hs : s ∈ l) (i : Nat) :
    0 ≤ ((s.counts[i]?).getD 0).toInt := by
  cases hi : s.counts[i]? with
  | none => exact Int.le_refl 0
  | some n => exact Int32.le_iff_toInt_le.1 (h.counts_nonneg s hs n (List.mem_of_getElem? hi))

theorem product_bounds {w n : Int32} (hw : 0 ≤ w.toInt ∧ w.toInt ≤ 100) (hn : 0 ≤ n.toInt) :
    0 ≤ w.toInt * n.toInt ∧ w.toInt * n.toInt ≤ loadBound := by
  have hlt := n.toInt_lt
  constructor
  · exact Int.mul_nonneg hw.1 hn
  · exact Int.mul_le_mul hw.2 (by omega) hn (by omega)

theorem toInt_product {w n : Int32} (hw : 0 ≤ w.toInt ∧ w.toInt ≤ 100) (hn : 0 ≤ n.toInt) :
    (w.toInt64 * n.toInt64).toInt = w.toInt * n.toInt := by
  have hbounds := product_bounds hw hn
  rw [loadBound] at hbounds
  have hfits : FitsWord (w.toInt64.toInt * n.toInt64.toInt) := by
    rw [Int32.toInt_toInt64, Int32.toInt_toInt64, FitsWord]
    omega
  rw [toInt_mul_of_fits hfits, Int32.toInt_toInt64, Int32.toInt_toInt64]

/-- There is room for the loads or weights of so many metrics, and for as much again. -/
theorem room_of_few {k : Nat} (few : k < 16777216) {bound : Int}
    (hbound : 0 ≤ bound ∧ bound ≤ loadBound) : (k : Int) * bound < 4611686018427387904 := by
  obtain ⟨hbound, hle⟩ := hbound
  rw [loadBound] at hle
  have hk : (k : Int) * bound ≤ 16777215 * bound :=
    Int.mul_le_mul_of_nonneg_right (by omega) hbound
  omega

/-- A sum of words over metrics, each as large as a load at most, does not wrap. -/
theorem toInt_foldl_add_of_few {f : Share → Int64} (few : l.length < 16777216)
    (small : ∀ s ∈ l, 0 ≤ (f s).toInt ∧ (f s).toInt ≤ loadBound) :
    (l.foldl (fun sum s => sum + f s) 0).toInt = (l.map fun s => (f s).toInt).sum := by
  have hroom := room_of_few few ⟨loadBound_nonneg, Int.le_refl loadBound⟩
  have hrest : 0 ≤ (l.length : Int) * loadBound :=
    Int.mul_nonneg (Int.natCast_nonneg _) loadBound_nonneg
  have hsmall : ∀ s ∈ l, -loadBound ≤ (f s).toInt ∧ (f s).toInt ≤ loadBound := by
    intro s hs
    have hs := small s hs
    omega
  have hbelow : FitsWord ((0 : Int64).toInt - l.length * loadBound) := by
    rw [Int64.toInt_zero, FitsWord]
    omega
  have habove : FitsWord ((0 : Int64).toInt + l.length * loadBound) := by
    rw [Int64.toInt_zero, FitsWord]
    omega
  rw [toInt_foldl_add hsmall hbelow habove, Int64.toInt_zero, Int.zero_add]

theorem Moderate.loadAt_bounds (h : Moderate l) (i : Nat) :
    0 ≤ loadAt l i ∧ loadAt l i < 4611686018427387904 := by
  have hsum := sum_map_bounds (g := Share.loadAt i) fun s hs =>
    product_bounds (h.weight_bounds hs) (h.count_nonneg hs i)
  have hroom := room_of_few h.few ⟨loadBound_nonneg, Int.le_refl loadBound⟩
  rw [loadAt]
  omega

theorem Moderate.weightOf_lt (h : Moderate l) : weightOf l < 4611686018427387904 := by
  have hsum := sum_map_bounds (g := fun s : Share => s.metric.weight.toInt) fun s hs =>
    h.weight_bounds hs
  have hbound : (0 : Int) ≤ 100 ∧ 100 ≤ loadBound := by
    rw [loadBound]
    omega
  have hroom := room_of_few h.few hbound
  rw [weightOf]
  omega

/-- Fewer metrics are moderate as far as their sums go. -/
theorem Moderate.length_take_lt (h : Moderate l) (k : Nat) : (l.take k).length < 16777216 :=
  Nat.lt_of_le_of_lt (List.length_take_le' k l) h.few

/-- The whole weight does not wrap if all weights are in their documented range. -/
theorem toInt_totalWeight_of_weights (few : l.length < 16777216)
    (weights : ∀ s ∈ l, 0 ≤ s.metric.weight ∧ s.metric.weight ≤ 100) :
    (totalWeight l).toInt = weightOf l := by
  have hsmall : ∀ s ∈ l, 0 ≤ s.metric.weight.toInt64.toInt ∧
      s.metric.weight.toInt64.toInt ≤ loadBound := by
    intro s hs
    obtain ⟨hlo, hhi⟩ := weights s hs
    have hlo : 0 ≤ s.metric.weight.toInt := Int32.le_iff_toInt_le.1 hlo
    have hhi : s.metric.weight.toInt ≤ 100 := Int32.le_iff_toInt_le.1 hhi
    rw [Int32.toInt_toInt64, loadBound]
    omega
  rw [totalWeight, toInt_foldl_add_of_few few hsmall, weightOf]
  simp only [Int32.toInt_toInt64]

theorem Moderate.toInt_totalWeight_take (h : Moderate l) (k : Nat) :
    (totalWeight (l.take k)).toInt = weightOf (l.take k) :=
  toInt_totalWeight_of_weights (h.length_take_lt k) fun s hs =>
    h.weight_mem s (List.mem_of_mem_take hs)

theorem Moderate.toInt_sumAt_take (h : Moderate l) (i k : Nat) :
    (sumAt (l.take k) i).toInt = loadAt (l.take k) i := by
  have hproduct : ∀ s ∈ l.take k,
      (s.metric.weight.toInt64 * ((s.counts[i]?).getD 0).toInt64).toInt = s.loadAt i := by
    intro s hs
    have hs := List.mem_of_mem_take hs
    exact toInt_product (h.weight_bounds hs) (h.count_nonneg hs i)
  have hsmall : ∀ s ∈ l.take k,
      0 ≤ (s.metric.weight.toInt64 * ((s.counts[i]?).getD 0).toInt64).toInt ∧
        (s.metric.weight.toInt64 * ((s.counts[i]?).getD 0).toInt64).toInt ≤ loadBound := by
    intro s hs
    rw [hproduct s hs]
    have hs := List.mem_of_mem_take hs
    exact product_bounds (h.weight_bounds hs) (h.count_nonneg hs i)
  rw [sumAt, toInt_foldl_add_of_few (h.length_take_lt k) hsmall, loadAt,
    List.map_congr_left hproduct]

theorem Moderate.toInt_totalWeight (h : Moderate l) : (totalWeight l).toInt = weightOf l :=
  toInt_totalWeight_of_weights h.few h.weight_mem

theorem Moderate.toInt_sumAt (h : Moderate l) (i : Nat) : (sumAt l i).toInt = loadAt l i := by
  have htake := h.toInt_sumAt_take i l.length
  rwa [List.take_length] at htake

theorem Moderate.neverWraps (h : Moderate l) : NeverWraps l := by
  refine ⟨h.toInt_totalWeight_take, ?_, h.toInt_sumAt_take, ?_⟩
  · intro s hs n hn
    exact toInt_product (h.weight_bounds hs) (Int32.le_iff_toInt_le.1 (h.counts_nonneg s hs n hn))
  · intro i
    have hload := h.loadAt_bounds i
    have hweight := h.weightOf_lt
    have hweighed := h.weighed
    have hone : (1 : Int64).toInt = 1 := rfl
    have hadd : (sumAt l i + totalWeight l).toInt = loadAt l i + weightOf l := by
      rw [← h.toInt_sumAt i, ← h.toInt_totalWeight] at *
      exact toInt_add_of_fits (by rw [FitsWord]; omega)
    have hsub := toInt_sub_of_fits (a := sumAt l i + totalWeight l) (b := 1)
      (by rw [hadd, hone, FitsWord]; omega)
    rw [hadd, hone] at hsub
    exact ⟨hadd, hsub⟩

/-! ## Rounding up -/

/-- Division that rounds up finds the least multiple that covers a number. -/
theorem isLeast_roundedUp {n weight : Int} (hweight : 0 < weight) :
    IsLeast {t : Int | n ≤ t * weight} ((n + weight - 1) / weight) := by
  constructor
  · have hlt : n + weight - 1 < (n + weight - 1) / weight * weight + weight :=
      Int.lt_ediv_add_one_mul_self _ hweight |>.trans_eq (by ring)
    change n ≤ (n + weight - 1) / weight * weight
    omega
  · intro t ht
    have ht : n ≤ t * weight := ht
    have hlt : n + weight - 1 < (t + 1) * weight := by
      rw [Int.add_mul]
      omega
    exact Int.lt_add_one_iff.1 (Int.ediv_lt_of_lt_mul hweight hlt)

/-! ## Steps -/

theorem lt_horizon_iff (hl : l ≠ []) : i < horizon l ↔ ∀ s ∈ l, i < s.counts.length := by
  have hmap : l.map Share.counts ≠ [] := by
    intro hnil
    exact hl (List.map_eq_nil_iff.1 hnil)
  rw [horizon]
  rw [← Nat.succ_le_iff, le_shortestLength_iff hmap]
  exact List.forall_mem_map

theorem Moderate.ne_nil (h : Moderate l) : l ≠ [] := by
  intro hnil
  have hweighed := h.weighed
  rw [hnil] at hweighed
  exact absurd hweighed (by decide)

/-- There is a step that all metrics have in common. -/
theorem Moderate.horizon_pos (h : Moderate l) : 0 < horizon l := by
  rw [lt_horizon_iff h.ne_nil]
  intro s hs
  exact List.length_pos_iff.2 (h.counts_ne_nil s hs)

theorem mem_weighedCounts {n : Int32} : n ∈ weighedCounts l ↔
    ∃ s ∈ l, 0 < s.metric.weight ∧ n ∈ s.counts.take (horizon l) := by
  simp only [weighedCounts, List.mem_flatMap, List.mem_filter, decide_eq_true_eq, and_assoc]

/-- Up to the horizon every metric with a weight has a count at each step, which matters. -/
theorem getD_mem_weighedCounts {s : Share} (hs : s ∈ l) (hweight : 0 < s.metric.weight)
    (hi : i < horizon l) : (s.counts[i]?).getD 0 ∈ weighedCounts l := by
  have hlt : i < s.counts.length :=
    (lt_horizon_iff (List.ne_nil_of_mem hs)).1 hi s hs
  rw [mem_weighedCounts]
  refine ⟨s, hs, hweight, ?_⟩
  rw [List.getElem?_eq_getElem hlt, Option.getD_some]
  exact List.mem_take_iff_getElem.2 ⟨i, by omega, rfl⟩

/-- Some metric has a weight, so some count matters. -/
theorem Moderate.weighedCounts_ne_nil (h : Moderate l) : weighedCounts l ≠ [] := by
  have hsome : ∃ s ∈ l, 0 < s.metric.weight := by
    by_contra hnone
    -- Otherwise all weights, and with them the whole weight, would be zero.
    have hzero : ∀ s ∈ l, 0 ≤ s.metric.weight.toInt ∧ s.metric.weight.toInt ≤ 0 := by
      intro s hs
      have hle : ¬ 0 < s.metric.weight := fun hpos => hnone ⟨s, hs, hpos⟩
      exact ⟨(h.weight_bounds hs).1, Int32.le_iff_toInt_le.1 (Int32.not_lt.1 hle)⟩
    have hsum : weightOf l ≤ l.length * 0 := (sum_map_bounds hzero).2
    have hweighed := h.weighed
    omega
  obtain ⟨s, hs, hweight⟩ := hsome
  exact List.ne_nil_of_mem (getD_mem_weighedCounts hs hweight h.horizon_pos)

/-! ## Loads and means -/

theorem mul_weightOf (l : List Share) (m : Int) :
    m * weightOf l = (l.map fun s => s.metric.weight.toInt * m).sum := by
  rw [weightOf, ← List.sum_map_mul_left]
  simp only [Int.mul_comm]

/-- A count of a metric without a weight does not matter. -/
theorem Moderate.weight_mul_le (h : Moderate l) {s : Share} (hs : s ∈ l) {a b : Int}
    (hab : 0 < s.metric.weight → a ≤ b) :
    s.metric.weight.toInt * a ≤ s.metric.weight.toInt * b := by
  have hweight := (h.weight_bounds hs).1
  by_cases hpos : 0 < s.metric.weight
  · exact Int.mul_le_mul_of_nonneg_left (hab hpos) hweight
  · have hle : s.metric.weight.toInt ≤ 0 := Int32.le_iff_toInt_le.1 (Int32.not_lt.1 hpos)
    have hzero : s.metric.weight.toInt = 0 := Int.le_antisymm hle hweight
    rw [hzero, Int.zero_mul, Int.zero_mul]

/-- An upper bound of the counts at a step bounds their mean. -/
theorem Moderate.loadAt_le (h : Moderate l) {m : Int}
    (hm : ∀ s ∈ l, 0 < s.metric.weight → ((s.counts[i]?).getD 0).toInt ≤ m) :
    loadAt l i ≤ m * weightOf l := by
  rw [loadAt, mul_weightOf]
  exact List.sum_le_sum fun s hs => h.weight_mul_le hs (hm s hs)

/-- A lower bound of the counts at a step bounds their mean. -/
theorem Moderate.le_loadAt (h : Moderate l) {m : Int}
    (hm : ∀ s ∈ l, 0 < s.metric.weight → m ≤ ((s.counts[i]?).getD 0).toInt) :
    m * weightOf l ≤ loadAt l i := by
  rw [loadAt, mul_weightOf]
  exact List.sum_le_sum fun s hs => h.weight_mul_le hs (hm s hs)

/-! ## The target -/

/-- The least number that times the whole weight covers the load of every step. -/
def IsTarget (l : List Share) (t : Int) : Prop :=
  IsLeast {t : Int | ∀ i < horizon l, loadAt l i ≤ t * weightOf l} t

/-- The peak of the weighted sums is the highest load. -/
theorem Moderate.exists_peak (h : Moderate l) : ∃ i < horizon l,
    (sums l).max? = some (sumAt l i) ∧ ∀ j < horizon l, loadAt l j ≤ loadAt l i := by
  cases hmax : (sums l).max? with
  | none =>
    have hnil : sums l = [] := List.max?_eq_none_iff.1 hmax
    have hpos := h.horizon_pos
    rw [sums_eq_map, List.map_eq_nil_iff, List.range_eq_nil] at hnil
    omega
  | some peak =>
    obtain ⟨hmem, hle⟩ := List.max?_eq_some_iff.1 hmax
    rw [sums_eq_map] at hmem hle
    obtain ⟨i, hi, rfl⟩ := List.mem_map.1 hmem
    refine ⟨i, List.mem_range.1 hi, rfl, ?_⟩
    intro j hj
    have hword : sumAt l j ≤ sumAt l i := hle _ (List.mem_map_of_mem (List.mem_range.2 hj))
    rw [← h.toInt_sumAt i, ← h.toInt_sumAt j]
    exact Int64.le_iff_toInt_le.1 hword

/-- Rounding up the peak gives the target. -/
theorem Moderate.isTarget_of_peak (h : Moderate l) (hi : i < horizon l)
    (peak : ∀ j < horizon l, loadAt l j ≤ loadAt l i) :
    IsTarget l ((loadAt l i + weightOf l - 1) / weightOf l) := by
  have hsame : {t : Int | ∀ j < horizon l, loadAt l j ≤ t * weightOf l} =
      {t : Int | loadAt l i ≤ t * weightOf l} := by
    ext t
    constructor
    · intro ht
      exact ht i hi
    · intro ht j hj
      exact Int.le_trans (peak j hj) ht
  rw [IsTarget, hsame]
  exact isLeast_roundedUp h.weighed

/-- The target lies between the smallest and the largest count that matters. -/
theorem Moderate.exists_bounds (h : Moderate l) {t : Int} (ht : IsTarget l t) :
    ∃ lo hi : Int32, (weighedCounts l).min? = some lo ∧ (weighedCounts l).max? = some hi ∧
      lo.toInt ≤ t ∧ t ≤ hi.toInt := by
  cases hmin : (weighedCounts l).min? with
  | none => exact absurd (List.min?_eq_none_iff.1 hmin) h.weighedCounts_ne_nil
  | some lo =>
    cases hmax : (weighedCounts l).max? with
    | none => exact absurd (List.max?_eq_none_iff.1 hmax) h.weighedCounts_ne_nil
    | some hi =>
      obtain ⟨-, hlo⟩ := List.min?_eq_some_iff.1 hmin
      obtain ⟨-, hhi⟩ := List.max?_eq_some_iff.1 hmax
      refine ⟨lo, hi, rfl, rfl, ?_, ?_⟩
      -- The target covers the load of the first step, which is no less than its lower bound.
      · have hload : lo.toInt * weightOf l ≤ loadAt l 0 := h.le_loadAt fun s hs hpos =>
          Int32.le_iff_toInt_le.1 (hlo _ (getD_mem_weighedCounts hs hpos h.horizon_pos))
        have hcovers : loadAt l 0 ≤ t * weightOf l := ht.1 0 h.horizon_pos
        exact Int.le_of_mul_le_mul_right (Int.le_trans hload hcovers) h.weighed
      -- The largest count covers every step, and the target is the least that does.
      · refine ht.2 fun i hi => h.loadAt_le fun s hs hpos => ?_
        exact Int32.le_iff_toInt_le.1 (hhi _ (getD_mem_weighedCounts hs hpos hi))

/-- The target is a count, so bringing it into their range changes nothing. -/
theorem Moderate.target_bounds (h : Moderate l) {t : Int} (ht : IsTarget l t) :
    0 ≤ t ∧ t ≤ maxCount := by
  obtain ⟨lo, hi, hmin, -, hlo, hhi⟩ := h.exists_bounds ht
  obtain ⟨s, hs, -, hmem⟩ := mem_weighedCounts.1 (List.min?_eq_some_iff.1 hmin).1
  have hnonneg : 0 ≤ lo.toInt :=
    Int32.le_iff_toInt_le.1 (h.counts_nonneg s hs lo (List.mem_of_mem_take hmem))
  have hlt := hi.toInt_lt
  rw [maxCount]
  omega

/-- The goal of moderate shares has the target, and the words come to it without being
brought into range. -/
theorem ofShares?_of_moderate (strategy : PeakStrategy) (h : Moderate l) :
    ∃ peak goal, (sums l).max? = some peak ∧ ofShares? strategy l = some goal ∧
      IsTarget l goal.target.toInt ∧
      goal.target.toInt = (peak + totalWeight l - 1).toInt / (totalWeight l).toInt := by
  obtain ⟨i, hi, hmax, peak⟩ := h.exists_peak
  have htarget := h.isTarget_of_peak hi peak
  have hbounds := h.target_bounds htarget
  have hround : (sumAt l i + totalWeight l - 1).toInt / (totalWeight l).toInt =
      (loadAt l i + weightOf l - 1) / weightOf l := by
    rw [(h.neverWraps.rounding i).2, h.toInt_totalWeight]
  have hcount : (countOfPeak (sumAt l i) (totalWeight l)).toInt =
      (loadAt l i + weightOf l - 1) / weightOf l := by
    rw [countOfPeak, hround, min_eq_left hbounds.2, max_eq_right hbounds.1]
    rw [maxCount] at hbounds
    exact Int32.toInt_ofInt_of_le (by omega) (by omega)
  have hpositive : ¬ totalWeight l ≤ 0 := by
    intro hle
    have hle : (totalWeight l).toInt ≤ 0 := Int64.le_iff_toInt_le.1 hle
    have hweighed := h.weighed
    rw [h.toInt_totalWeight] at hle
    omega
  have hpeak : strategy.apply (weightedSum (l.map fun s => (s.metric.weight, s.counts))) =
      some (sumAt l i) := hmax
  refine ⟨sumAt l i, ⟨countOfPeak (sumAt l i) (totalWeight l), scaleDownOf l⟩, hmax, ?_, ?_, ?_⟩
  · rw [ofShares?]
    simp only [hpositive, if_false, hpeak, Option.map_some]
  · change IsTarget l (countOfPeak (sumAt l i) (totalWeight l)).toInt
    rw [hcount]
    exact htarget
  · rw [hround]
    exact hcount

/-- Without a positive weight there is no goal. -/
theorem ofShares?_eq_none_of_weight (strategy : PeakStrategy) (h : totalWeight l ≤ 0) :
    ofShares? strategy l = none := by
  rw [ofShares?, if_pos h]

/-- Without a common step there is none either. -/
theorem ofShares?_eq_none (strategy : PeakStrategy) (h : horizon l = 0) :
    ofShares? strategy l = none := by
  have hsums : sums l = [] := by
    rw [sums_eq_map, h]
    rfl
  have hpeak :
      strategy.apply (weightedSum (l.map fun s => (s.metric.weight, s.counts))) = none := by
    change strategy.apply (sums l) = none
    rw [hsums]
    cases strategy
    rfl
  simp only [ofShares?, hpeak, Option.map_none, ite_self]

/-! ## Results -/

variable {strategy : ModelStrategy} {metrics : KeyMap String Metric}
  {results : List PredictorResult}

/-- Predictors that ask for no negative counts make shares of the same kind. -/
theorem counts_nonneg_of_results
    (room : strategy = .mean → ∀ k, (countsOn results k).length < 4294967296)
    (nonneg : ∀ r ∈ results, ∀ n ∈ r.counts, 0 ≤ n) :
    ∀ s ∈ shares strategy metrics results, ∀ n ∈ s.counts, 0 ≤ n := by
  rw [shares_eq_filterMap]
  intro s hs
  obtain ⟨k, -, hfound⟩ := List.mem_filterMap.1 hs
  obtain ⟨metric, -, rfl⟩ := Option.map_eq_some_iff.1 hfound
  refine ModelStrategy.apply_nonneg (fun mean => room mean k) fun counts hcounts => ?_
  obtain ⟨r, hr, hsome⟩ := List.mem_filterMap.1 hcounts
  obtain rfl := Option.some.inj (Option.ite_none_right_eq_some.1 hsome).2
  exact nonneg r hr

/-- The goal of results whose shares are moderate has the least target that covers the load of
every step. No word wraps on the way, the quotient is a count as it is, and it lies between the
smallest and the largest of the counts that matter. -/
theorem target_isLeast (config : ScalerConfig) (metrics : KeyMap String Metric)
    (results : List PredictorResult)
    (h : Moderate (shares config.modelStrategy metrics results)) :
    let l := shares config.modelStrategy metrics results
    ∃ goal peak lo hi, ofResults? config metrics results = some goal ∧
      IsLeast {t : Int | ∀ i < horizon l, loadAt l i ≤ t * weightOf l} goal.target.toInt ∧
      NeverWraps l ∧
      (sums l).max? = some peak ∧
      goal.target.toInt = (peak + totalWeight l - 1).toInt / (totalWeight l).toInt ∧
      (weighedCounts l).min? = some lo ∧ (weighedCounts l).max? = some hi ∧
      lo ≤ goal.target ∧ goal.target ≤ hi := by
  intro l
  obtain ⟨peak, goal, hpeak, hgoal, htarget, hquotient⟩ :=
    ofShares?_of_moderate config.peakStrategy h
  obtain ⟨lo, hi, hmin, hmax, hlo, hhi⟩ := h.exists_bounds htarget
  exact ⟨goal, peak, lo, hi, hgoal, htarget, h.neverWraps, hpeak, hquotient, hmin, hmax,
    Int32.le_iff_toInt_le.2 hlo, Int32.le_iff_toInt_le.2 hhi⟩

/-- Seventy parts of `cpu` and thirty of `memory`. -/
def weighted : KeyMap String Metric :=
  (KeyMap.empty.insert "cpu$$q" ⟨"cpu", "", "q", 1.0, 70, .none⟩).insert "memory$$q"
    ⟨"memory", "", "q", 1.0, 30, .none⟩

/-- They have two steps in common and ask for 510 hundredths at the first and for 470 at the
second, which takes six. -/
theorem target_isLeast_weighted :
    let results : List PredictorResult :=
      [⟨"cpu$$q$holt_winters", [3, 5]⟩, ⟨"memory$$q$holt_winters", [10, 4, 9]⟩]
    let l := shares .max weighted results
    Moderate l ∧ weightOf l = 100 ∧ (List.range (horizon l)).map (loadAt l) = [510, 470] ∧
      ∃ goal, ofResults? default weighted results = some goal ∧ goal.target = 6 ∧
        IsLeast {t : Int | ∀ i < horizon l, loadAt l i ≤ t * weightOf l} 6 := by
  intro results l
  -- Decided over the lists: a proposition about all words could be taken for one to try them all.
  have nonneg : (l.all fun s => s.counts.all fun n => decide (0 ≤ n)) = true := by decide +kernel
  have moderate : Moderate l := by
    refine ⟨by decide +kernel, by decide +kernel, by decide +kernel, by decide +kernel, ?_⟩
    intro s hs n hn
    exact of_decide_eq_true (List.all_eq_true.1 (List.all_eq_true.1 nonneg s hs) n hn)
  obtain ⟨goal, -, -, -, hgoal, hleast, -⟩ := target_isLeast default weighted results moderate
  have hsix : (ofResults? default weighted results).map Goal.target = some 6 := by decide +kernel
  rw [hgoal] at hsix
  have hsix : goal.target = 6 := Option.some.inj hsix
  rw [hsix] at hleast
  exact ⟨moderate, by decide +kernel, by decide +kernel, goal, hgoal, hsix, hleast⟩

end PredictiveScaling.Goal
