import PredictiveScaling.Proofs.Evaluation.Repetition
import PredictiveScaling.Proofs.Evaluation.Target
import PredictiveScaling.Proofs.Decimal.Exact
import PredictiveScaling.Proofs.Forecast.Exact

/-!
# Enough replicas and no more

Where the base strategy computes in exact numbers, nothing is lost on the way from the forecasts on
one metric to the target of a tick. A value is rounded up to the least count that is enough for it
(`toInt_ceilCount_le_iff`), the largest count of all models and steps is enough for all values,
and neither the weight of the metric nor the division by it changes that count. So the target is the
least count that is enough for every value of every model (`Goal.target_isLeast_covering`).
-/
namespace PredictiveScaling

/-! ## Rounding up -/

/-- The least count not below a number is at most `n` if the number is, and `n` is a count. -/
theorem toInt_ceilCount_le_iff {q : ℚ} (fits : q ≤ 2147483647) {n : ℤ} :
    (Scalar.ceilCount q).toInt ≤ n ↔ 0 ≤ n ∧ q ≤ n := by
  by_cases hq : q ≤ 0
  · have hcount : Scalar.ceilCount q = 0 := if_pos hq
    rw [hcount, Int32.toInt_zero]
    constructor
    · intro hn
      exact ⟨hn, hq.trans (by exact_mod_cast hn)⟩
    · exact fun h => h.1
  · have hceil : ⌈q⌉ ≤ 2147483647 := Int.ceil_le.2 (by exact_mod_cast fits)
    have hpos : 0 < ⌈q⌉ := Int.ceil_pos.2 (not_le.1 hq)
    have hcount : Scalar.ceilCount q = Int32.ofInt ⌈q⌉ := by
      change (if q ≤ 0 then 0 else Int32.ofInt (min ⌈q⌉ 2147483647)) = _
      rw [if_neg hq, min_eq_left hceil]
    rw [hcount, Int32.toInt_ofInt_of_le (by omega) (by omega), Int.ceil_le]
    constructor
    · intro hn
      have hle : ⌈q⌉ ≤ n := Int.ceil_le.2 hn
      exact ⟨by omega, hn⟩
    · exact fun h => h.2

/-! ## Outlooks -/

/-- What a model expects of a metric, in exact numbers, and the current count as it is read for
its forecast. -/
structure Outlook where
  key : String
  values : List ℚ
  baseline : ℚ
  current : Int32

namespace Outlook

variable {base : BaseStrategy} {target f : ℚ} {o : Outlook} {n : ℤ}

/-- What the predictor asks for: nothing is rounded but the counts themselves. -/
def result (base : BaseStrategy) (target : ℚ) (o : Outlook) : PredictorResult :=
  ⟨o.key, base.counts o.values o.baseline o.current target⟩

/-- What the base strategy divides by is positive, and there is a current count. -/
def Grounded (base : BaseStrategy) (target : ℚ) (o : Outlook) : Prop :=
  match base with
  | .underThreshold => 0 < target
  | .steady => 0 < o.baseline ∧ 0 ≤ o.current

/-- So many replicas are enough for a value: each keeps under the target, or each has no more to do
than now. -/
def Covers (base : BaseStrategy) (target : ℚ) (o : Outlook) (n : ℤ) (f : ℚ) : Prop :=
  match base with
  | .underThreshold => f ≤ n * target
  | .steady => f * o.current.toInt ≤ n * o.baseline

/-- How many replicas a value takes, in parts of a replica. -/
def demand (base : BaseStrategy) (target : ℚ) (o : Outlook) (f : ℚ) : ℚ :=
  match base with
  | .underThreshold => f / target
  | .steady => o.current.toInt * f / o.baseline

theorem demand_le_iff (h : o.Grounded base target) :
    o.demand base target f ≤ n ↔ o.Covers base target n f := by
  cases base with
  | underThreshold => exact div_le_iff₀ h
  | steady =>
    rw [demand, Covers, mul_comm f]
    exact div_le_iff₀ h.1

/-- Each count is the demand of a value, rounded up. -/
theorem counts_eq (h : o.Grounded base target) : (o.result base target).counts =
    o.values.map fun f => Scalar.ceilCount (o.demand base target f) := by
  have nonzero : ∀ {q : ℚ}, 0 < q → Scalar.isZero q = false := by
    intro q hq
    exact beq_eq_false_iff_ne.2 hq.ne'
  cases base with
  | underThreshold =>
    have htarget : Scalar.isZero target = false := nonzero h
    simp only [result, BaseStrategy.counts, BaseStrategy.thresholdCounts, htarget,
      Bool.false_eq_true, if_false, demand]
  | steady =>
    have hbaseline : Scalar.isZero o.baseline = false := nonzero h.1
    simp only [result, BaseStrategy.counts, BaseStrategy.steadyCounts, hbaseline,
      Bool.false_eq_true, if_false]
    rfl

/-- The outlook of a model on the metric, with so many steps and no value that would take more
replicas than can be counted. -/
structure On (base : BaseStrategy) (target : ℚ) (metricKey : String) (steps : Nat) (o : Outlook) :
    Prop where
  metricKey_eq : (splitPredictorKey? o.key).map Prod.fst = some metricKey
  length_eq : o.values.length = steps
  grounded : o.Grounded base target
  countable : ∀ f ∈ o.values, o.Covers base target Goal.maxCount f

variable {metricKey : String} {steps : Nat}

/-- All counts are at most `n` if that is enough for all values. -/
theorem On.counts_le_iff (h : o.On base target metricKey steps) :
    (∀ c ∈ (o.result base target).counts, c.toInt ≤ n) ↔
      ∀ f ∈ o.values, 0 ≤ n ∧ o.Covers base target n f := by
  rw [counts_eq h.grounded, List.forall_mem_map]
  refine forall₂_congr fun f hf => ?_
  have fits : o.demand base target f ≤ (Goal.maxCount : ℤ) :=
    (demand_le_iff h.grounded).2 (h.countable f hf)
  rw [toInt_ceilCount_le_iff (by exact_mod_cast fits), demand_le_iff h.grounded]

theorem On.counts_nonneg (h : o.On base target metricKey steps) :
    ∀ c ∈ (o.result base target).counts, 0 ≤ c := by
  rw [counts_eq h.grounded, List.forall_mem_map]
  intro f hf
  have fits : o.demand base target f ≤ (Goal.maxCount : ℤ) :=
    (demand_le_iff h.grounded).2 (h.countable f hf)
  rw [Int32.le_iff_toInt_le]
  exact ((toInt_ceilCount_le_iff (by exact_mod_cast fits)).1 le_rfl).1

theorem On.length_counts (h : o.On base target metricKey steps) :
    (o.result base target).counts.length = steps := by
  rw [result, BaseStrategy.length_counts, h.length_eq]

end Outlook

/-! ## The largest counts -/

namespace ModelStrategy

variable {sequences : List (List Int32)} {steps : Nat} {n : ℤ}

theorem toInt_fold_max_le_iff {xs : List Int32} (hne : xs ≠ []) :
    (ModelStrategy.max.fold xs).toInt ≤ n ↔ ∀ x ∈ xs, x.toInt ≤ n := by
  cases hmax : xs.max? with
  | none => exact absurd (List.max?_eq_none_iff.1 hmax) hne
  | some m =>
    obtain ⟨hmem, hle⟩ := List.max?_eq_some_iff.1 hmax
    rw [fold, hmax, Option.getD_some]
    constructor
    · exact fun hm x hx => (Int32.le_iff_toInt_le.1 (hle x hx)).trans hm
    · exact fun h => h m hmem

/-- Of sequences of one length the largest elements are at most `n` if all elements are. -/
theorem apply_max_le_iff (hne : sequences ≠ []) (hlength : ∀ s ∈ sequences, s.length = steps) :
    (∀ c ∈ ModelStrategy.max.apply sequences, c.toInt ≤ n) ↔
      ∀ s ∈ sequences, ∀ c ∈ s, c.toInt ≤ n := by
  have hsteps : shortestLength sequences = steps := by
    obtain ⟨s, hs⟩ := List.exists_mem_of_ne_nil _ hne
    apply Nat.le_antisymm
    · rw [← hlength s hs]
      exact (le_shortestLength_iff hne).1 le_rfl s hs
    · exact (le_shortestLength_iff hne).2 fun t ht => (hlength t ht).ge
  have hcolumn : ∀ i < steps, (∀ x ∈ column sequences i, x.toInt ≤ n) ↔
      ∀ s ∈ sequences, ∀ x, s[i]? = some x → x.toInt ≤ n := by
    intro i _
    simp only [column, List.mem_filterMap]
    exact ⟨fun h s hs x hx => h x ⟨s, hs, hx⟩, fun h x ⟨s, hs, hx⟩ => h s hs x hx⟩
  have hcolumn_ne : ∀ i < steps, column sequences i ≠ [] := by
    intro i hi
    obtain ⟨s, hs⟩ := List.exists_mem_of_ne_nil _ hne
    have hlt : i < s.length := by rwa [hlength s hs]
    exact List.ne_nil_of_mem (List.mem_filterMap.2 ⟨s, hs, List.getElem?_eq_getElem hlt⟩)
  rw [apply, List.forall_mem_map, hsteps]
  constructor
  · intro h s hs c hc
    obtain ⟨i, hi, rfl⟩ := List.getElem_of_mem hc
    have hi' : i < steps := by rwa [← hlength s hs]
    have hfold := (toInt_fold_max_le_iff (hcolumn_ne i hi')).1 (h i (List.mem_range.2 hi'))
    exact (hcolumn i hi').1 hfold s hs _ (List.getElem?_eq_getElem hi)
  · intro h i hi
    have hi : i < steps := List.mem_range.1 hi
    refine (toInt_fold_max_le_iff (hcolumn_ne i hi)).2 ((hcolumn i hi).2 fun s hs x hx => ?_)
    exact h s hs x (List.mem_of_getElem? hx)

end ModelStrategy

/-! ## One metric -/

namespace Goal

variable {results : List PredictorResult} {k : String} {metric : Metric} {s : Share} {t : ℤ}

/-- Where all results are on one metric there is one group. -/
theorem resultKeys_eq_singleton (hne : results ≠ [])
    (hkey : ∀ r ∈ results, metricKey? r = some k) : resultKeys results = [k] := by
  have hmem : ∀ k', k' ∈ resultKeys results ↔ k' ∈ [k] := by
    intro k'
    rw [mem_resultKeys, List.mem_singleton]
    constructor
    · rintro ⟨r, hr, hk'⟩
      rw [hkey r hr] at hk'
      exact (Option.some.inj hk').symm
    · rintro rfl
      obtain ⟨r, hr⟩ := List.exists_mem_of_ne_nil _ hne
      exact ⟨r, hr, hkey r hr⟩
  exact (pairwise_resultKeys results).eq_of_mem_iff (List.pairwise_singleton _ _) hmem

theorem countsOn_eq_map (hkey : ∀ r ∈ results, metricKey? r = some k) :
    countsOn results k = results.map PredictorResult.counts := by
  rw [countsOn, ← List.filterMap_eq_map]
  exact List.filterMap_congr fun r hr => if_pos (hkey r hr)

theorem shares_eq_singleton {metrics : KeyMap String Metric} (strategy : ModelStrategy)
    (hne : results ≠ []) (hkey : ∀ r ∈ results, metricKey? r = some k)
    (found : metrics.find? k = some metric) : shares strategy metrics results =
      [⟨metric, strategy.apply (results.map PredictorResult.counts)⟩] := by
  rw [shares_eq_filterMap, resultKeys_eq_singleton hne hkey, List.filterMap_cons_some (b :=
    ⟨metric, strategy.apply (results.map PredictorResult.counts)⟩)]
  · rfl
  · rw [found, Option.map_some, countsOn_eq_map hkey]

/-- The weight of the only metric does not matter: the target is its largest count. -/
theorem isTarget_singleton_iff (weight : 0 < s.metric.weight) :
    IsTarget [s] t ↔ IsLeast {n : ℤ | ∀ c ∈ s.counts, c.toInt ≤ n} t := by
  have hweight : 0 < s.metric.weight.toInt := by
    have := Int32.lt_iff_toInt_lt.1 weight
    rwa [Int32.toInt_zero] at this
  have hset : {n : ℤ | ∀ i < horizon [s], loadAt [s] i ≤ n * weightOf [s]} =
      {n : ℤ | ∀ c ∈ s.counts, c.toInt ≤ n} := by
    ext n
    have hload : ∀ i, loadAt [s] i ≤ n * weightOf [s] ↔ ((s.counts[i]?).getD 0).toInt ≤ n := by
      intro i
      simp only [loadAt, weightOf, List.map_cons, List.map_nil, List.sum_cons, List.sum_nil,
        Int.add_zero, Share.loadAt]
      rw [Int.mul_comm n]
      exact Int.mul_le_mul_left hweight
    simp only [Set.mem_ofPred_eq, hload]
    constructor
    · intro h c hc
      obtain ⟨i, hi, rfl⟩ := List.getElem_of_mem hc
      have hle := h i hi
      rwa [List.getElem?_eq_getElem hi, Option.getD_some] at hle
    · intro h i hi
      have hi : i < s.counts.length := hi
      rw [List.getElem?_eq_getElem hi, Option.getD_some]
      exact h _ (List.getElem_mem hi)
  rw [IsTarget, hset]

end Goal

/-! ## The target -/

/-- The target of a metric as the number that it is; one that is not finite counts as zero. -/
def Metric.exactTarget (m : Metric) : ℚ := (Decimal.rational? m.target).getD 0

/-- What the predictors of a tick ask for, if nothing disturbs it. -/
def Tick.results (t : Tick) (w : Answers) : List PredictorResult :=
  (t.start.store.installed.visited t.start.store.predictors.toList).filterMap
    (w.result? t.start.scaler.config)

theorem Tick.aim?_eq (t : Tick) (w : Answers) :
    t.aim? w = Goal.ofResults? t.start.scaler.config t.start.store.metrics (t.results w) :=
  rfl

namespace Goal

/-- The one metric with results has shares that no word is too small for. -/
theorem moderate_singleton {s : Share} (weight : 1 ≤ s.metric.weight ∧ s.metric.weight ≤ 100)
    (counts_ne_nil : s.counts ≠ []) (counts_nonneg : ∀ n ∈ s.counts, 0 ≤ n) : Moderate [s] := by
  have hone : (1 : Int32).toInt = 1 := rfl
  have hweight : 1 ≤ s.metric.weight.toInt := by
    have := Int32.le_iff_toInt_le.1 weight.1
    rwa [hone] at this
  have hnonneg : 0 ≤ s.metric.weight := by
    rw [Int32.le_iff_toInt_le, Int32.toInt_zero]
    omega
  refine ⟨by simp, ?_, ?_, ?_, ?_⟩
  · simpa using ⟨hnonneg, weight.2⟩
  · simp only [weightOf, List.map_cons, List.map_nil, List.sum_cons, List.sum_nil]
    omega
  · simpa using counts_ne_nil
  · simpa using counts_nonneg

/-- Where a tick has results on one metric only, the largest of its models count, and their
forecasts are of one length, the target is the least number of replicas that is enough for every
value of every model. The counts are those that exact numbers come to, and none of them is too large
to be one. -/
theorem target_isLeast_covering (config : ScalerConfig) (metrics : KeyMap String Metric)
    (metric : Metric) (outlooks : List Outlook) {k : String} {steps : Nat}
    (max : config.modelStrategy = .max) (found : metrics.find? k = some metric)
    (weight : 1 ≤ metric.weight ∧ metric.weight ≤ 100) (some_outlook : outlooks ≠ [])
    (some_step : 0 < steps)
    (on : ∀ o ∈ outlooks, o.On config.baseStrategy metric.exactTarget k steps) :
    let results := outlooks.map (Outlook.result config.baseStrategy metric.exactTarget)
    ∃ goal, ofResults? config metrics results = some goal ∧
      IsLeast {n : ℤ | 0 ≤ n ∧ ∀ o ∈ outlooks, ∀ f ∈ o.values,
        o.Covers config.baseStrategy metric.exactTarget n f} goal.target.toInt ∧
      ∀ (t : Tick) (w : Answers) (report : EvaluationReport), t.start.scaler.config = config →
        t.start.store.metrics = metrics → w.Fit t → t.Undisturbed →
        (t.results w).Perm results → t.report? = some report →
          report.target = some goal.target := by
  intro results
  have hresults : results ≠ [] := by simpa [results] using some_outlook
  have hkey : ∀ r ∈ results, metricKey? r = some k := by
    refine List.forall_mem_map.2 fun o ho => ?_
    exact (on o ho).metricKey_eq
  have hlength : ∀ s ∈ results.map PredictorResult.counts, s.length = steps := by
    simp only [results, List.map_map, List.forall_mem_map]
    exact fun o ho => (on o ho).length_counts
  have hsequences : results.map PredictorResult.counts ≠ [] := by simpa using hresults
  have hshares := shares_eq_singleton config.modelStrategy hresults hkey found
  rw [max] at hshares
  -- The largest counts are enough where all counts are.
  have hle : ∀ n : ℤ, (∀ c ∈ ModelStrategy.max.apply (results.map PredictorResult.counts),
      c.toInt ≤ n) ↔ 0 ≤ n ∧ ∀ o ∈ outlooks, ∀ f ∈ o.values,
        o.Covers config.baseStrategy metric.exactTarget n f := by
    intro n
    rw [ModelStrategy.apply_max_le_iff hsequences hlength]
    simp only [results, List.map_map, List.forall_mem_map]
    constructor
    · intro h
      have hall := fun o ho => (on o ho).counts_le_iff.1 (h o ho)
      obtain ⟨o, ho⟩ := List.exists_mem_of_ne_nil _ some_outlook
      obtain ⟨f, hf⟩ := List.exists_mem_of_ne_nil o.values
        (List.length_pos_iff.1 ((on o ho).length_eq ▸ some_step))
      exact ⟨(hall o ho f hf).1, fun o ho f hf => (hall o ho f hf).2⟩
    · exact fun h o ho => (on o ho).counts_le_iff.2 fun f hf => ⟨h.1, h.2 o ho f hf⟩
  have hmoderate : Moderate
      [⟨metric, ModelStrategy.max.apply (results.map PredictorResult.counts)⟩] := by
    refine moderate_singleton weight ?_ ?_
    · intro (hnil : ModelStrategy.max.apply (results.map PredictorResult.counts) = [])
      -- An empty sequence would have a negative number for its largest count.
      have hnone := (hle (-1)).1 (by simp [hnil])
      omega
    · refine ModelStrategy.apply_nonneg nofun ?_
      simp only [results, List.map_map, List.forall_mem_map]
      exact fun o ho => (on o ho).counts_nonneg
  obtain ⟨-, goal, -, hgoal, htarget, -⟩ := ofShares?_of_moderate config.peakStrategy hmoderate
  have hpositive : 0 < metric.weight := Int32.lt_of_lt_of_le (by decide) weight.1
  rw [isTarget_singleton_iff hpositive] at htarget
  simp only [hle] at htarget
  have hofResults : ofResults? config metrics results = some goal := by
    rw [ofResults?, max, hshares, hgoal]
  refine ⟨goal, hofResults, htarget, ?_⟩
  intro t w report hconfig hmetrics fit calm same ended
  rw [(t.target_of_report? fit calm ended).1, t.aim?_eq, hconfig, hmetrics,
    ofResults?_perm same, hofResults, Option.map_some]

/-- A metric with a target of one. -/
def cpu (weight : Int32) : Metric := ⟨"cpu", "", "q", 1.0, weight, .none⟩

theorem exactTarget_cpu (weight : Int32) : (cpu weight).exactTarget = 1 := by
  rw [Metric.exactTarget, cpu, Decimal.rational?_one, Option.getD_some]

/-- Two models on the metric. -/
def twoOutlooks : List Outlook :=
  [⟨"cpu$$q$holt_winters", [5 / 2, 1 / 3], 1, 0⟩, ⟨"cpu$$q$remote", [-1, 21 / 5], 0, 0⟩]

theorem on_twoOutlooks : ∀ o ∈ twoOutlooks, o.On .underThreshold 1 "cpu$$q" 2 := by
  have hkey : ∀ o ∈ twoOutlooks, (splitPredictorKey? o.key).map Prod.fst = some "cpu$$q" ∧
      o.values.length = 2 := by decide +kernel
  intro o ho
  refine ⟨(hkey o ho).1, (hkey o ho).2, one_pos, ?_⟩
  rw [twoOutlooks, List.mem_cons, List.mem_singleton] at ho
  rcases ho with rfl | rfl <;> simp [Outlook.Covers, maxCount] <;> norm_num

/-- The only model of a tick expects twice the last value while there are two replicas. -/
def doubled : Outlook := ⟨"cpu$$q$holt_winters", [2, 1], 1, 2⟩

theorem on_doubled : doubled.On .steady 1 "cpu$$q" 2 := by
  refine ⟨by decide +kernel, rfl, ⟨one_pos, by decide⟩, ?_⟩
  have htwo : doubled.current.toInt = 2 := rfl
  simp only [Outlook.Covers, htwo]
  simp [doubled, maxCount]
  norm_num

/-- Five replicas are enough for four and a fifth. At two replicas, twice the last value takes
four, which is what the tick reports. -/
theorem target_isLeast_covering_two :
    (∃ goal, ofResults? ⟨1, 10, .underThreshold, .max, .selectMax⟩
        (KeyMap.empty.insert "cpu$$q" (cpu 30))
        (twoOutlooks.map (Outlook.result .underThreshold 1)) = some goal ∧ goal.target = 5 ∧
      IsLeast {n : ℤ | 0 ≤ n ∧ ∀ o ∈ twoOutlooks, ∀ f ∈ o.values,
        o.Covers .underThreshold 1 n f} 5) ∧
    ∃ report, (Tick.atCount (Tick.onPair .steady) 2).report? = some report ∧
      report.target = some 4 ∧
      IsLeast {n : ℤ | 0 ≤ n ∧ ∀ o ∈ [doubled], ∀ f ∈ o.values, o.Covers .steady 1 n f} 4 := by
  constructor
  · obtain ⟨goal, hgoal, hleast, -⟩ := target_isLeast_covering
      ⟨1, 10, .underThreshold, .max, .selectMax⟩ (KeyMap.empty.insert "cpu$$q" (cpu 30)) (cpu 30)
      twoOutlooks rfl (KeyMap.find?_insert_self _ _ _) ⟨by decide, by decide⟩ (List.cons_ne_nil _ _)
      two_pos (exactTarget_cpu 30 ▸ on_twoOutlooks)
    rw [exactTarget_cpu] at hgoal hleast
    have hfive : (ofResults? ⟨1, 10, .underThreshold, .max, .selectMax⟩
        (KeyMap.empty.insert "cpu$$q" (cpu 30))
        (twoOutlooks.map (Outlook.result .underThreshold 1))).map Goal.target = some 5 := by
      decide +kernel
    rw [hgoal] at hfive
    have hfive : goal.target = 5 := Option.some.inj hfive
    rw [hfive] at hleast
    exact ⟨goal, hgoal, hfive, hleast⟩
  · obtain ⟨goal, -, hleast, hticks⟩ := target_isLeast_covering
      ⟨1, 20, .steady, .max, .selectMax⟩ (Tick.onPair .steady).store.metrics (cpu 100) [doubled]
      rfl rfl ⟨by decide, by decide⟩ (List.cons_ne_nil _ _) two_pos
      (by rw [exactTarget_cpu]; exact List.forall_mem_singleton.2 on_doubled)
    rw [exactTarget_cpu] at hleast hticks
    have ended : (Tick.atCount (Tick.onPair .steady) 2).report? =
        some ⟨1, some 4, some (.scaledUp 2 4)⟩ := by decide +kernel
    have hresults : (Tick.atCount (Tick.onPair .steady) 2).results
        (Answers.ofCount (Tick.forecastAtHand (Tick.onPair .steady)) 2) =
          [doubled].map (Outlook.result .steady 1) := by decide +kernel
    have hfour : some 4 = some goal.target :=
      hticks _ (Answers.ofCount (Tick.forecastAtHand (Tick.onPair .steady)) 2) _ rfl rfl
        (by decide +kernel) (Tick.undisturbed_atCount _ _) (.of_eq hresults) ended
    rw [← Option.some.inj hfour] at hleast
    exact ⟨_, ended, rfl, hleast⟩

end Goal

end PredictiveScaling
