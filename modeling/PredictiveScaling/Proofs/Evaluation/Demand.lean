import PredictiveScaling.Proofs.Evaluation.Target
import PredictiveScaling.Proofs.Replicas.Order
import PredictiveScaling.Proofs.Store.Coherence

/-!
# More demand

Predictors that ask for more, step by step, never lower the target, and whether there is one
at all does not depend on how much they ask for (`target_mono`). With metrics and lengths
fixed, neither the whole weight nor the common horizon changes; the loads grow with the
counts, so the target of the larger ones covers those of the smaller.
-/
namespace PredictiveScaling.Goal

/-! ## Shares -/

/-- On the same metric, no less is asked for at any step. -/
def Share.Raises (s s' : Share) : Prop := s'.metric = s.metric ∧ Below s.counts s'.counts

section

variable {l l' : List Share}

theorem map_metric_of_raises (h : List.Forall₂ Share.Raises l l') :
    l'.map Share.metric = l.map Share.metric := by
  induction h with
  | nil => rfl
  | cons hs _ ih => rw [List.map_cons, List.map_cons, hs.1, ih]

theorem totalWeight_of_raises (h : List.Forall₂ Share.Raises l l') :
    totalWeight l' = totalWeight l := by
  have hfold : ∀ l : List Share, totalWeight l =
      (l.map Share.metric).foldl (fun w metric => w + metric.weight.toInt64) 0 := by
    intro l
    rw [totalWeight, List.foldl_map]
  rw [hfold, hfold, map_metric_of_raises h]

theorem weightOf_of_raises (h : List.Forall₂ Share.Raises l l') :
    weightOf l' = weightOf l := by
  have hsum : ∀ l : List Share,
      weightOf l = ((l.map Share.metric).map fun metric => metric.weight.toInt).sum := by
    intro l
    rw [weightOf, List.map_map]
    rfl
  rw [hsum, hsum, map_metric_of_raises h]

theorem scaleDownOf_of_raises (h : List.Forall₂ Share.Raises l l') :
    scaleDownOf l' = scaleDownOf l := by
  have hfold : ∀ l : List Share, scaleDownOf l =
      (l.map Share.metric).foldl (fun d metric => d.max metric.scaleDown) .none := by
    intro l
    rw [scaleDownOf, List.foldl_map]
  rw [hfold, hfold, map_metric_of_raises h]

theorem horizon_of_raises (h : List.Forall₂ Share.Raises l l') : horizon l' = horizon l := by
  have hcounts : List.Forall₂ Below (l.map Share.counts) (l'.map Share.counts) := by
    rw [List.forall₂_map_left_iff, List.forall₂_map_right_iff]
    exact h.imp fun _ _ hs => hs.2
  exact (shortestLength_eq_of_below hcounts).symm

/-- Raised shares are as moderate. -/
theorem Moderate.of_raises (h : Moderate l) (hraises : List.Forall₂ Share.Raises l l') :
    Moderate l' := by
  refine ⟨hraises.length_eq ▸ h.few, ?_, weightOf_of_raises hraises ▸ h.weighed, ?_, ?_⟩
  · intro s' hs'
    obtain ⟨s, hs, hmetric, -⟩ := exists_related hraises hs'
    rw [hmetric]
    exact h.weight_mem s hs
  · intro s' hs' hnil
    obtain ⟨s, hs, -, hbelow⟩ := exists_related hraises hs'
    have hlength := hbelow.length_eq
    rw [hnil] at hlength
    exact h.counts_ne_nil s hs (List.length_eq_zero_iff.1 hlength)
  · intro s' hs' n' hn'
    obtain ⟨s, hs, -, hbelow⟩ := exists_related hraises hs'
    obtain ⟨n, hn, hle⟩ := hbelow.exists_mem_left hn'
    exact Int32.le_trans (h.counts_nonneg s hs n hn) hle

/-- Raised shares have larger loads. -/
theorem Moderate.loadAt_le_loadAt (h : Moderate l) (hraises : List.Forall₂ Share.Raises l l')
    (i : Nat) : loadAt l i ≤ loadAt l' i := by
  have hmem : List.Forall₂ (fun s s' => s ∈ l ∧ s.Raises s') l l' :=
    (List.forall₂_and_left _ _).2 ⟨fun _ hs => hs, hraises⟩
  refine List.Forall₂.sum_le_sum ?_
  rw [List.forall₂_map_left_iff, List.forall₂_map_right_iff]
  refine hmem.imp ?_
  rintro s s' ⟨hs, hmetric, hbelow⟩
  have hle := ModelStrategy.getD_le_getD (hbelow.getElem? i)
  rw [Share.loadAt, Share.loadAt, hmetric]
  exact Int.mul_le_mul_of_nonneg_left (Int32.le_iff_toInt_le.1 hle) (h.weight_bounds hs).1

/-- The least count that covers the larger loads covers the smaller ones. -/
theorem Moderate.target_le_target (h : Moderate l) (hraises : List.Forall₂ Share.Raises l l')
    {t t' : Int} (ht : IsTarget l t) (ht' : IsTarget l' t') : t ≤ t' := by
  refine ht.2 fun i hi => ?_
  have hcovers : loadAt l' i ≤ t' * weightOf l' := ht'.1 i (horizon_of_raises hraises ▸ hi)
  rw [weightOf_of_raises hraises] at hcovers
  exact Int.le_trans (h.loadAt_le_loadAt hraises i) hcovers

/-- Shares without a common step or without a positive weight apart, all are moderate. -/
theorem moderate_or (few : l.length < 16777216)
    (weights : ∀ s ∈ l, 0 ≤ s.metric.weight ∧ s.metric.weight ≤ 100)
    (nonneg : ∀ s ∈ l, ∀ n ∈ s.counts, 0 ≤ n) :
    Moderate l ∨ horizon l = 0 ∨ totalWeight l ≤ 0 := by
  by_cases hweight : totalWeight l ≤ 0
  · exact .inr (.inr hweight)
  · by_cases hhorizon : horizon l = 0
    · exact .inr (.inl hhorizon)
    · refine .inl ⟨few, weights, ?_, ?_, nonneg⟩
      · rw [← toInt_totalWeight_of_weights few weights]
        exact Int64.lt_iff_toInt_lt.1 (Int64.not_le.1 hweight)
      · intro s hs hnil
        have hlt := (lt_horizon_iff (List.ne_nil_of_mem hs)).1 (Nat.pos_of_ne_zero hhorizon) s hs
        rw [hnil] at hlt
        exact Nat.not_lt_zero _ hlt

/-- Raised shares have a goal exactly if the others have one, and none with a lower target. -/
theorem ofShares?_mono (strategy : PeakStrategy) (few : l.length < 16777216)
    (weights : ∀ s ∈ l, 0 ≤ s.metric.weight ∧ s.metric.weight ≤ 100)
    (nonneg : ∀ s ∈ l, ∀ n ∈ s.counts, 0 ≤ n) (hraises : List.Forall₂ Share.Raises l l') :
    Option.Rel (fun goal goal' => goal.target ≤ goal'.target ∧ goal.scaleDown = goal'.scaleDown)
      (ofShares? strategy l) (ofShares? strategy l') := by
  rcases moderate_or few weights nonneg with h | hhorizon | hweight
  · obtain ⟨-, goal, -, hgoal, ht, -⟩ := ofShares?_of_moderate strategy h
    obtain ⟨-, goal', -, hgoal', ht', -⟩ := ofShares?_of_moderate strategy (h.of_raises hraises)
    have hle := h.target_le_target hraises ht ht'
    rw [hgoal, hgoal']
    refine .some ⟨Int32.le_iff_toInt_le.2 hle, ?_⟩
    rw [scaleDown_of_ofShares? hgoal, scaleDown_of_ofShares? hgoal',
      scaleDownOf_of_raises hraises]
  · rw [ofShares?_eq_none strategy hhorizon,
      ofShares?_eq_none strategy ((horizon_of_raises hraises).trans hhorizon)]
    exact .none
  · rw [ofShares?_eq_none_of_weight strategy hweight, ofShares?_eq_none_of_weight strategy]
    · exact .none
    · rwa [totalWeight_of_raises hraises]

end

/-! ## Results -/

/-- The same predictor asks for no less at any step. -/
def Raises (r r' : PredictorResult) : Prop := r'.key = r.key ∧ Below r.counts r'.counts

/-- The same predictors, in any order, and each of them asks for as many steps and for no less
at any of them. -/
def AsksMore (results results' : List PredictorResult) : Prop :=
  ∃ reordered, results.Perm reordered ∧ List.Forall₂ Raises reordered results'

variable {strategy : ModelStrategy} {metrics : KeyMap String Metric}
  {results results' : List PredictorResult}

theorem metricKey?_of_raises {r r' : PredictorResult} (h : Raises r r') :
    metricKey? r' = metricKey? r := by
  rw [metricKey?, metricKey?, h.1]

theorem resultKeys_of_raises (h : List.Forall₂ Raises results results') :
    resultKeys results' = resultKeys results := by
  have hkeys : results'.filterMap metricKey? = results.filterMap metricKey? := by
    induction h with
    | nil => rfl
    | cons hr _ ih =>
      rw [List.filterMap_cons, List.filterMap_cons, metricKey?_of_raises hr, ih]
  rw [resultKeys, resultKeys, hkeys]

theorem below_countsOn (h : List.Forall₂ Raises results results') (k : String) :
    List.Forall₂ Below (countsOn results k) (countsOn results' k) := by
  have hcounts : Relator.LiftFun Raises (Option.Rel Below)
      (fun r => if metricKey? r = some k then some r.counts else none)
      (fun r => if metricKey? r = some k then some r.counts else none) := by
    intro r r' hr
    dsimp only
    rw [metricKey?_of_raises hr]
    by_cases hk : metricKey? r = some k
    · rw [if_pos hk, if_pos hk]
      exact .some hr.2
    · rw [if_neg hk, if_neg hk]
      exact .none
  exact List.rel_filterMap hcounts h

/-- Predictors that ask for more raise the shares of their metrics. -/
theorem shares_raises (h : List.Forall₂ Raises results results')
    (room : strategy = .mean → ∀ k, (countsOn results k).length < 4294967296) :
    List.Forall₂ Share.Raises (shares strategy metrics results)
      (shares strategy metrics results') := by
  have hshare : Relator.LiftFun Eq (Option.Rel Share.Raises)
      (fun k => (metrics.find? k).map fun metric =>
        Share.mk metric (strategy.apply (countsOn results k)))
      (fun k => (metrics.find? k).map fun metric =>
        Share.mk metric (strategy.apply (countsOn results' k))) := by
    rintro k _ rfl
    dsimp only
    cases metrics.find? k with
    | none => exact .none
    | some metric =>
      exact .some ⟨rfl, ModelStrategy.below_apply (below_countsOn h k) fun mean => room mean k⟩
  rw [shares_eq_filterMap, shares_eq_filterMap, resultKeys_of_raises h]
  exact List.rel_filterMap hshare (List.forall₂_same.2 fun _ _ => rfl)

/-! ## Few metrics, and few predictors for each -/

/-- There are no more shares than metrics. -/
theorem length_shares_le (strategy : ModelStrategy) (metrics : KeyMap String Metric)
    (results : List PredictorResult) :
    (shares strategy metrics results).length ≤ metrics.size := by
  have hlength : (shares strategy metrics results).length =
      ((resultKeys results).filter metrics.contains).length := by
    rw [shares_eq_filterMap, List.length_filterMap_eq_countP, List.countP_eq_length_filter]
    simp only [Option.isSome_map]
    rfl
  have hnodup : ((resultKeys results).filter metrics.contains).Nodup :=
    ((pairwise_resultKeys results).imp fun hlt => ne_of_lt hlt).filter _
  have hsubset : (resultKeys results).filter metrics.contains ⊆ metrics.keys := by
    intro k hk
    exact (metrics.mem_keys_iff k).2 (List.mem_filter.1 hk).2
  have hle := (List.subperm_of_subset hnodup hsubset).length_le
  rwa [← hlength, KeyMap.keys, List.length_map] at hle

theorem exists_of_mem_shares {s : Share} (hs : s ∈ shares strategy metrics results) :
    ∃ k, metrics.find? k = some s.metric := by
  rw [shares_eq_filterMap] at hs
  obtain ⟨k, -, hfound⟩ := List.mem_filterMap.1 hs
  obtain ⟨metric, hmetric, rfl⟩ := Option.map_eq_some_iff.1 hfound
  exact ⟨k, hmetric⟩

/-- Results of predictors, one for each. -/
structure OfPredictors (results : List PredictorResult) : Prop where
  nodup : (results.map PredictorResult.key).Nodup
  named : ∀ r ∈ results, ∃ (metric : Metric) (spec : ModelSpec),
    r.key = metric.predictorKey spec.tag

/-- There are two kinds of models, so there are no more than two predictors for a metric. -/
theorem OfPredictors.length_countsOn_le (h : OfPredictors results) (k : String) :
    (countsOn results k).length ≤ 2 := by
  let onMetric := results.filter fun r => decide (metricKey? r = some k)
  have hlength : (countsOn results k).length = (onMetric.map PredictorResult.key).length := by
    rw [countsOn, List.length_filterMap_eq_countP, List.countP_eq_length_filter,
      List.length_map]
    congr 2
    funext r
    by_cases hk : metricKey? r = some k <;> simp [hk]
  have hnodup : (onMetric.map PredictorResult.key).Nodup :=
    h.nodup.sublist ((List.filter_sublist).map _)
  have hsubset : onMetric.map PredictorResult.key ⊆
      [k ++ String.singleton keyMark ++ ModelKind.seasonalTag,
        k ++ String.singleton keyMark ++ ModelKind.remoteTag] := by
    intro key hkey
    obtain ⟨r, hr, rfl⟩ := List.mem_map.1 hkey
    obtain ⟨hr, hon⟩ := List.mem_filter.1 hr
    obtain ⟨metric, spec, hname⟩ := h.named r hr
    have hmetric : metric.key = k := by
      have hon := of_decide_eq_true hon
      rw [metricKey?, hname, splitPredictorKey?_predictorKey metric spec.tag
        (Store.keyMark_notMem_tag spec)] at hon
      exact Option.some.inj hon
    rw [hname, Metric.predictorKey, hmetric, ModelSpec.tag]
    cases spec.kind with
    | seasonal params => exact List.mem_cons_self
    | remote params => exact List.mem_cons_of_mem _ List.mem_cons_self
  rw [hlength]
  exact (List.subperm_of_subset hnodup hsubset).length_le

/-! ## Targets -/

/-- For metrics with weights in their documented range: predictors that ask for more have a
goal exactly if they had one before, and its target is no lower. A mean has room for the
predictors of a metric, or for any other results up to 2³² on each metric. -/
theorem target_mono (config : ScalerConfig) (metrics : KeyMap String Metric)
    (few : metrics.size < 16777216)
    (weights : ∀ k metric, metrics.find? k = some metric →
      0 ≤ metric.weight ∧ metric.weight ≤ 100)
    (nonneg : ∀ r ∈ results, ∀ n ∈ r.counts, 0 ≤ n)
    (room : OfPredictors results ∨
      (config.modelStrategy = .mean → ∀ k, (countsOn results k).length < 4294967296))
    (more : AsksMore results results') :
    Option.Rel (fun goal goal' => goal.target ≤ goal'.target ∧ goal.scaleDown = goal'.scaleDown)
      (ofResults? config metrics results) (ofResults? config metrics results') := by
  obtain ⟨reordered, hperm, hraises⟩ := more
  have hroom : config.modelStrategy = .mean →
      ∀ k, (countsOn reordered k).length < 4294967296 := by
    intro mean k
    rw [← (countsOn_perm hperm k).length_eq]
    rcases room with predictors | room
    · have htwo := predictors.length_countsOn_le k
      omega
    · exact room mean k
  have hfew : (shares config.modelStrategy metrics reordered).length < 16777216 :=
    Nat.lt_of_le_of_lt (length_shares_le _ metrics reordered) few
  have hweights : ∀ s ∈ shares config.modelStrategy metrics reordered,
      0 ≤ s.metric.weight ∧ s.metric.weight ≤ 100 := by
    intro s hs
    obtain ⟨k, hfound⟩ := exists_of_mem_shares hs
    exact weights k s.metric hfound
  have hnonneg : ∀ s ∈ shares config.modelStrategy metrics reordered, ∀ n ∈ s.counts, 0 ≤ n :=
    counts_nonneg_of_results hroom fun r hr => nonneg r (hperm.mem_iff.2 hr)
  rw [ofResults?_perm hperm]
  exact ofShares?_mono config.peakStrategy hfew hweights hnonneg (shares_raises hraises hroom)

/-- The mean of both models of `cpu` grows at the first step, and the target with it, whichever
of the results comes in first. -/
theorem target_mono_weighted :
    let config : ScalerConfig := { (default : ScalerConfig) with modelStrategy := .mean }
    let results : List PredictorResult :=
      [⟨"cpu$$q$holt_winters", [3, 5]⟩, ⟨"memory$$q$holt_winters", [10, 4, 9]⟩,
        ⟨"cpu$$q$remote", [4, 4]⟩]
    let results' : List PredictorResult :=
      [⟨"cpu$$q$remote", [8, 4]⟩, ⟨"cpu$$q$holt_winters", [3, 5]⟩,
        ⟨"memory$$q$holt_winters", [10, 4, 9]⟩]
    OfPredictors results ∧ AsksMore results results' ∧
      ∃ goal goal', ofResults? config weighted results = some goal ∧
        ofResults? config weighted results' = some goal' ∧
        goal.target = 6 ∧ goal'.target = 7 ∧ goal.target ≤ goal'.target := by
  intro config results results'
  have weights : ∀ k metric, weighted.find? k = some metric →
      0 ≤ metric.weight ∧ metric.weight ≤ 100 := by
    have hall : (weighted.entries.all fun e =>
        decide (0 ≤ e.2.weight ∧ e.2.weight ≤ 100)) = true := by decide +kernel
    intro k metric hfound
    exact of_decide_eq_true
      (List.all_eq_true.1 hall _ ((weighted.mem_entries_iff k metric).2 hfound))
  have nonneg : ∀ r ∈ results, ∀ n ∈ r.counts, 0 ≤ n := by
    have hall : (results.all fun r => r.counts.all fun n => decide (0 ≤ n)) = true := by
      decide +kernel
    intro r hr n hn
    exact of_decide_eq_true (List.all_eq_true.1 (List.all_eq_true.1 hall r hr) n hn)
  have predictors : OfPredictors results := by
    refine ⟨by decide +kernel, ?_⟩
    let cpu : Metric := ⟨"cpu", "", "q", 1.0, 70, .none⟩
    let memory : Metric := ⟨"memory", "", "q", 1.0, 30, .none⟩
    let smoothing : ModelSpec := ⟨.seasonal default, false, .zero⟩
    let served : ModelSpec := ⟨.remote default, false, .zero⟩
    rw [List.forall_mem_cons, List.forall_mem_cons, List.forall_mem_singleton]
    exact ⟨⟨cpu, smoothing, by decide +kernel⟩, ⟨memory, smoothing, by decide +kernel⟩,
      ⟨cpu, served, by decide +kernel⟩⟩
  have more : AsksMore results results' := by
    refine ⟨[⟨"cpu$$q$remote", [4, 4]⟩, ⟨"cpu$$q$holt_winters", [3, 5]⟩,
      ⟨"memory$$q$holt_winters", [10, 4, 9]⟩], by decide +kernel, ?_⟩
    exact .cons ⟨rfl, by decide +kernel⟩
      (.cons ⟨rfl, by decide +kernel⟩ (.cons ⟨rfl, by decide +kernel⟩ .nil))
  have hrel := target_mono config weighted (by decide +kernel) weights nonneg
    (.inl predictors) more
  have hsix : (ofResults? config weighted results).map Goal.target = some 6 := by decide +kernel
  have hseven : (ofResults? config weighted results').map Goal.target = some 7 := by
    decide +kernel
  obtain ⟨goal, hgoal, hsix⟩ := Option.map_eq_some_iff.1 hsix
  obtain ⟨goal', hgoal', hseven⟩ := Option.map_eq_some_iff.1 hseven
  rw [hgoal, hgoal'] at hrel
  cases hrel with
  | some hle => exact ⟨predictors, more, goal, goal', hgoal, hgoal', hsix, hseven, hle.1⟩

end PredictiveScaling.Goal
