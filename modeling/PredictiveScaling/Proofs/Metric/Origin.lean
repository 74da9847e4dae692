import PredictiveScaling.Proofs.Evaluation.Groups
import PredictiveScaling.Proofs.Store.Coherence

/-!
# Where a predictor key comes from

A predictor key is made of the key of a metric and the tag of a model, and is taken apart at its
last mark. No tag has a mark, so both parts come back whatever marks stand in name, unit and query.
Everyone who goes from a predictor to its metric therefore arrives at the same one: an evaluation
when it puts results together, the store when it resolves a key and when it removes a metric
(`Metric.predictorKey_leads_back`).
-/
namespace PredictiveScaling

/-! ## Taking a key apart -/

theorem ModelKind.keyMark_notMem_tag (kind : ModelKind) : keyMark ∉ kind.tag.toList :=
  Store.keyMark_notMem_tag ⟨kind, false, .zero⟩

variable {m : Metric} {kind : ModelKind} {key : String}

theorem Metric.splitPredictorKey?_tag (m : Metric) (kind : ModelKind) :
    splitPredictorKey? (m.predictorKey kind.tag) = some (m.key, kind.tag) :=
  splitPredictorKey?_predictorKey m kind.tag kind.keyMark_notMem_tag

/-! ## Results by metric -/

/-- The counts that a model on a metric asks for. -/
structure ModelResult where
  metric : Metric
  kind : ModelKind
  counts : List Int32

namespace ModelResult

/-- They come in under the key of the predictor. -/
def toResult (r : ModelResult) : PredictorResult := ⟨r.metric.predictorKey r.kind.tag, r.counts⟩

theorem metricKey?_toResult (r : ModelResult) : Goal.metricKey? r.toResult = some r.metric.key := by
  rw [Goal.metricKey?, toResult, r.metric.splitPredictorKey?_tag r.kind]
  rfl

/-- The metrics with results are those of the models. -/
theorem mem_resultKeys_iff {rs : List ModelResult} :
    key ∈ Goal.resultKeys (rs.map toResult) ↔ ∃ r ∈ rs, r.metric.key = key := by
  rw [Goal.mem_resultKeys]
  constructor
  · rintro ⟨_, hmem, hkey⟩
    obtain ⟨r, hr, rfl⟩ := List.mem_map.1 hmem
    exact ⟨r, hr, Option.some.inj (r.metricKey?_toResult.symm.trans hkey)⟩
  · rintro ⟨r, hr, rfl⟩
    exact ⟨_, List.mem_map_of_mem hr, r.metricKey?_toResult⟩

theorem countsOn_toResult (rs : List ModelResult) (key : String) :
    Goal.countsOn (rs.map toResult) key =
      (rs.filter fun r => r.metric.key = key).map counts := by
  induction rs with
  | nil => rfl
  | cons r rs ih =>
    rw [Goal.countsOn] at ih ⊢
    rw [List.map_cons, List.filterMap_cons, metricKey?_toResult, ih]
    by_cases same : r.metric.key = key <;> simp [same, toResult]

end ModelResult

/-! ## What the store finds -/

namespace Store

theorem belongsTo_tag_iff : belongsTo key (m.predictorKey kind.tag) = true ↔ m.key = key := by
  rw [belongsTo_eq_true_iff, m.splitPredictorKey?_tag kind]
  simp

theorem resolve_predictorKey (s : Store) (m : Metric) (kind : ModelKind) :
    s.resolve (m.predictorKey kind.tag) =
      match s.models.find? (m.predictorKey kind.tag), s.metrics.find? m.key with
      | none, _ => .error (.noModel (m.predictorKey kind.tag))
      | some _, none => .error (.noMetric m.key)
      | some spec, some metric => .ok (spec, metric) := by
  rw [resolve]
  cases s.models.find? (m.predictorKey kind.tag) with
  | none => rfl
  | some spec =>
    simp only [m.splitPredictorKey?_tag kind]
    cases s.metrics.find? m.key <;> rfl

/-- The predictors that go with a metric are the registered ones on it. -/
theorem tag_mem_dependents_iff {s : Store} : m.predictorKey kind.tag ∈ s.dependents key ↔
    m.key = key ∧ s.predictors.contains (m.predictorKey kind.tag) = true := by
  rw [mem_dependents_iff, belongsTo_tag_iff, and_comm]

/-- What is left under the key of a predictor in one of the maps under such keys. -/
theorem find?_foldl_erase_dependents {α : Type} (s : Store) (entries : KeyMap String α) :
    ((s.dependents key).foldl KeyMap.erase entries).find? (m.predictorKey kind.tag) =
      if m.key = key ∧ s.predictors.contains (m.predictorKey kind.tag) = true then none
      else entries.find? (m.predictorKey kind.tag) := by
  rw [KeyMap.find?_foldl_erase]
  exact if_congr tag_mem_dependents_iff rfl rfl

end Store

/-! ## All who take keys apart -/

/-- A predictor key gives back the key of the metric and the tag it was made of. So there is one
group of results for each metric key, with all results on metrics of that key and no others; a
predictor is resolved to the metric under that key; and it goes, with its model and its last
training, when the metric under that key is removed, and with no other. -/
theorem Metric.predictorKey_leads_back :
    (∀ (m : Metric) (kind : ModelKind),
      splitPredictorKey? (m.predictorKey kind.tag) = some (m.key, kind.tag)) ∧
    (∀ rs : List ModelResult, ∃ keys : List String, keys.Pairwise (· < ·) ∧
      (∀ key, key ∈ keys ↔ ∃ r ∈ rs, r.metric.key = key) ∧
      Goal.groups (rs.map ModelResult.toResult) =
        keys.map fun key => (key, (rs.filter fun r => r.metric.key = key).map (·.counts))) ∧
    (∀ (s : Store) (m : Metric) (kind : ModelKind), s.resolve (m.predictorKey kind.tag) =
      match s.models.find? (m.predictorKey kind.tag), s.metrics.find? m.key with
      | none, _ => .error (.noModel (m.predictorKey kind.tag))
      | some _, none => .error (.noMetric m.key)
      | some spec, some metric => .ok (spec, metric)) ∧
    ∀ (s : Store) (key : String) (m : Metric) (kind : ModelKind),
      let goes := m.key = key ∧ s.predictors.contains (m.predictorKey kind.tag) = true
      (s.remove key).metrics.find? m.key =
          (if m.key = key then none else s.metrics.find? m.key) ∧
        (s.remove key).predictors.find? (m.predictorKey kind.tag) =
          (if goes then none else s.predictors.find? (m.predictorKey kind.tag)) ∧
        (s.remove key).models.find? (m.predictorKey kind.tag) =
          (if goes then none else s.models.find? (m.predictorKey kind.tag)) ∧
        (s.remove key).trainings.find? (m.predictorKey kind.tag) =
          (if goes then none else s.trainings.find? (m.predictorKey kind.tag)) := by
  refine ⟨splitPredictorKey?_tag, fun rs => ?_, Store.resolve_predictorKey, fun s key m kind => ?_⟩
  · let results := rs.map ModelResult.toResult
    refine ⟨Goal.resultKeys results, Goal.pairwise_resultKeys results,
      fun key => ModelResult.mem_resultKeys_iff, ?_⟩
    rw [Goal.groups_eq_map]
    exact List.map_congr_left fun key _ => congrArg (key, ·) (ModelResult.countsOn_toResult rs key)
  · intro goes
    rw [Store.remove_eq]
    refine ⟨?_, s.find?_foldl_erase_dependents _, s.find?_foldl_erase_dependents _,
      s.find?_foldl_erase_dependents _⟩
    rw [KeyMap.find?_erase]
    exact if_congr eq_comm rfl rfl

/-- Marks in a unit and a query do not mislead. -/
example : splitPredictorKey? (Metric.predictorKey ⟨"", "$", "a$b$", 1.0, 100, .none⟩ "remote") =
    some ("$$$a$b$", "remote") := by
  decide +kernel

end PredictiveScaling
