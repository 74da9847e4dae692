import PredictiveScaling.Proofs.Evaluation.Groups
import PredictiveScaling.Proofs.Metric.Strictness
import PredictiveScaling.Proofs.Replicas.Fold

/-!
# What a goal depends on

A goal depends on the results of an evaluation but not on their order (`ofResults?_perm`),
and on the metrics only through what is found under their keys. Its settings for scaling
down are as strict as those of the installed metrics that have a result; a metric without
a result adds nothing to them.
-/
namespace PredictiveScaling.Goal

variable {strategy : ModelStrategy} {config : ScalerConfig} {metrics : KeyMap String Metric}
  {results results' : List PredictorResult} {goal : Goal}

/-! ## Shares -/

theorem shares_eq_filterMap (strategy : ModelStrategy) (metrics : KeyMap String Metric)
    (results : List PredictorResult) :
    shares strategy metrics results = (resultKeys results).filterMap fun k =>
      (metrics.find? k).map fun metric => ⟨metric, strategy.apply (countsOn results k)⟩ := by
  rw [shares, groups_eq_map, List.filterMap_map]
  rfl

/-- The order of the results does not matter. -/
theorem shares_perm (h : results.Perm results') :
    shares strategy metrics results = shares strategy metrics results' := by
  rw [shares_eq_filterMap, shares_eq_filterMap, resultKeys_perm h]
  refine List.filterMap_congr fun k _ => ?_
  rw [strategy.apply_perm (countsOn_perm h k)]

theorem ofResults?_perm (h : results.Perm results') :
    ofResults? config metrics results = ofResults? config metrics results' := by
  rw [ofResults?, ofResults?, shares_perm h]

/-- Metrics matter only as they are found under their keys. -/
theorem ofResults?_congr {metrics' : KeyMap String Metric}
    (h : ∀ k, metrics.find? k = metrics'.find? k) :
    ofResults? config metrics results = ofResults? config metrics' results := by
  rw [ofResults?, ofResults?, shares_eq_filterMap, shares_eq_filterMap]
  simp only [h]

/-- The metrics in the shares of a goal are the installed ones that have a result. -/
theorem exists_mem_shares_iff (strategy : ModelStrategy) {p : Metric → Prop} :
    (∃ s ∈ shares strategy metrics results, p s.metric) ↔
      ∃ r ∈ results, ∃ k m, metricKey? r = some k ∧ metrics.find? k = some m ∧ p m := by
  rw [shares_eq_filterMap]
  constructor
  · rintro ⟨s, hs, hp⟩
    obtain ⟨k, hk, hfound⟩ := List.mem_filterMap.1 hs
    obtain ⟨r, hr, hkey⟩ := mem_resultKeys.1 hk
    obtain ⟨m, hm, rfl⟩ := Option.map_eq_some_iff.1 hfound
    exact ⟨r, hr, k, m, hkey, hm, hp⟩
  · rintro ⟨r, hr, k, m, hkey, hm, hp⟩
    refine ⟨⟨m, strategy.apply (countsOn results k)⟩, List.mem_filterMap.2 ⟨k, ?_, ?_⟩, hp⟩
    · exact mem_resultKeys.2 ⟨r, hr, hkey⟩
    · rw [hm, Option.map_some]

/-! ## Settings for scaling down -/

theorem scaleDownOf_eq_foldl (l : List Share) :
    scaleDownOf l = (l.map fun s => s.metric.scaleDown).foldl ScaleDown.max .none := by
  rw [scaleDownOf, List.foldl_map]

/-- The settings that go with a goal are those of the shares. -/
theorem scaleDown_of_ofShares? {peak : PeakStrategy} {l : List Share}
    (h : ofShares? peak l = some goal) : goal.scaleDown = scaleDownOf l := by
  unfold ofShares? at h
  dsimp only at h
  split at h
  · cases h
  · obtain ⟨peak, -, rfl⟩ := Option.map_eq_some_iff.1 h
    rfl

theorem scaleDown_of_ofResults? (h : ofResults? config metrics results = some goal) :
    goal.scaleDown = scaleDownOf (shares config.modelStrategy metrics results) :=
  scaleDown_of_ofShares? h

/-- The delay of a goal is at least as long as another one if that is none at all, or if an
installed metric with a result asks for as much. -/
theorem le_duration_iff (h : ofResults? config metrics results = some goal) {d : Duration} :
    d ≤ goal.scaleDown.duration ↔ d ≤ .zero ∨
      ∃ r ∈ results, ∃ k m, metricKey? r = some k ∧ metrics.find? k = some m ∧
        d ≤ m.scaleDown.duration := by
  rw [scaleDown_of_ofResults? h, scaleDownOf_eq_foldl, ScaleDown.le_duration_foldl_max,
    ← exists_mem_shares_iff config.modelStrategy]
  simp [ScaleDown.none]

/-- The threshold of a goal meets a demand if no threshold does, or if that of an installed
metric with a result does. -/
theorem meets_threshold_iff (h : ofResults? config metrics results = some goal) {x : Float} :
    ScaleDown.Meets goal.scaleDown.threshold x ↔ ScaleDown.Meets 0.0 x ∨
      ∃ r ∈ results, ∃ k m, metricKey? r = some k ∧ metrics.find? k = some m ∧
        ScaleDown.Meets m.scaleDown.threshold x := by
  rw [scaleDown_of_ofResults? h, scaleDownOf_eq_foldl, ScaleDown.meets_foldl_max,
    ← exists_mem_shares_iff config.modelStrategy]
  simp [ScaleDown.none]

/-! ## Metrics that are not there -/

/-- The goal of results, with the metrics that are found under their keys. -/
def ofFound? (config : ScalerConfig) (metric? : String → Option Metric)
    (results : List PredictorResult) : Option Goal :=
  ofShares? config.peakStrategy ((resultKeys results).filterMap fun k =>
    (metric? k).map fun metric => ⟨metric, config.modelStrategy.apply (countsOn results k)⟩)

variable {metric? : String → Option Metric}

/-- Only the metrics with results are looked up. -/
theorem ofResults?_eq_ofFound? (h : ∀ k ∈ resultKeys results, metrics.find? k = metric? k) :
    ofResults? config metrics results = ofFound? config metric? results := by
  rw [ofResults?, ofFound?, shares_eq_filterMap]
  congr 1
  refine List.filterMap_congr fun k hk => ?_
  rw [h k hk]

theorem ofFound?_perm (h : results.Perm results') :
    ofFound? config metric? results = ofFound? config metric? results' := by
  rw [ofFound?, ofFound?, resultKeys_perm h]
  congr 1
  refine List.filterMap_congr fun k _ => ?_
  rw [config.modelStrategy.apply_perm (countsOn_perm h k)]

/-- A result on a metric that is there. -/
def Counts (metric? : String → Option Metric) (r : PredictorResult) : Bool :=
  ((metricKey? r).bind metric?).isSome

theorem resultKeys_filter (results : List PredictorResult) :
    resultKeys (results.filter (Counts metric?)) =
      (resultKeys results).filter fun k => (metric? k).isSome := by
  have mem : ∀ k, k ∈ resultKeys (results.filter (Counts metric?)) ↔
      k ∈ (resultKeys results).filter fun k => (metric? k).isSome := by
    intro k
    simp only [mem_resultKeys, List.mem_filter]
    constructor
    · rintro ⟨r, ⟨hr, counts⟩, hkey⟩
      rw [Counts, hkey] at counts
      exact ⟨⟨r, hr, hkey⟩, counts⟩
    · rintro ⟨⟨r, hr, hkey⟩, there⟩
      exact ⟨r, ⟨hr, by rw [Counts, hkey]; exact there⟩, hkey⟩
  exact (pairwise_resultKeys _).eq_of_mem_iff ((pairwise_resultKeys results).filter _) mem

theorem countsOn_filter (results : List PredictorResult) {k : String}
    (there : (metric? k).isSome = true) :
    countsOn (results.filter (Counts metric?)) k = countsOn results k := by
  rw [countsOn, countsOn, List.filterMap_filter]
  refine List.filterMap_congr fun r _ => ?_
  by_cases hkey : metricKey? r = some k
  · have counts : Counts metric? r = true := by rw [Counts, hkey]; exact there
    simp only [counts, if_true]
  · simp only [hkey, if_false, ite_self]

/-- Results on metrics that are not there do not matter. -/
theorem ofFound?_filter (results : List PredictorResult) :
    ofFound? config metric? (results.filter (Counts metric?)) =
      ofFound? config metric? results := by
  rw [ofFound?, ofFound?, resultKeys_filter, List.filterMap_filter]
  congr 1
  refine List.filterMap_congr fun k _ => ?_
  cases hk : metric? k with
  | none => rfl
  | some m =>
    have there : (metric? k).isSome = true := by rw [hk]; rfl
    simp only [Option.isSome_some, if_true, Option.map_some, countsOn_filter results there]

end PredictiveScaling.Goal
