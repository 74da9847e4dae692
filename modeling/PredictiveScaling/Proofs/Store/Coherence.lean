import PredictiveScaling.Store

/-!
# Coherent stores

The six maps of a store are written one by one, and what belongs to a metric is found again
by taking predictor keys apart. They still fit together after each operation: the maps under
metric keys have the same keys, and so have those under predictor keys; a predictor key is
made of the key of an installed metric and the tag of its model.
-/
namespace PredictiveScaling

namespace KeyMap

variable {κ α : Type} [DecidableEq κ]

theorem contains_eq_of_find? {m : KeyMap κ α} {k : κ} {v : α} (h : m.find? k = some v) :
    m.contains k = true := by
  rw [contains, h]
  rfl

theorem find?_of_contains {m : KeyMap κ α} {k : κ} (h : m.contains k = true) :
    ∃ v, m.find? k = some v :=
  Option.isSome_iff_exists.1 h

theorem find?_foldl_erase (ks : List κ) (m : KeyMap κ α) (k : κ) :
    (ks.foldl erase m).find? k = if k ∈ ks then none else m.find? k := by
  induction ks generalizing m with
  | nil => simp
  | cons k' ks ih =>
    rw [List.foldl_cons, ih, find?_erase]
    by_cases hk : k = k'
    · simp [hk]
    · simp [hk, Ne.symm hk]

theorem contains_foldl_erase (ks : List κ) (m : KeyMap κ α) (k : κ) :
    (ks.foldl erase m).contains k = (decide (k ∉ ks) && m.contains k) := by
  rw [contains, find?_foldl_erase, contains]
  by_cases hk : k ∈ ks <;> simp [hk]

end KeyMap

namespace Store

/-- The six maps fit together. -/
structure Coherent (s : Store) : Prop where
  collectors : ∀ key, s.collectors.contains key = s.metrics.contains key
  stops : ∀ key, s.stops.contains key = s.metrics.contains key
  models : ∀ key, s.models.contains key = s.predictors.contains key
  trainings : ∀ key, s.trainings.contains key = true → s.predictors.contains key = true
  keys : ∀ key spec, s.models.find? key = some spec →
    ∃ metricKey, splitPredictorKey? key = some (metricKey, spec.tag) ∧
      s.metrics.contains metricKey = true

variable {s : Store} {key metricKey : String}

theorem coherent_empty : empty.Coherent := by
  refine ⟨fun _ => rfl, fun _ => rfl, fun _ => rfl, fun _ h => h, ?_⟩
  intro key spec h
  cases h

/-- A predictor key is made of the key of an installed metric and the tag of its model. -/
theorem Coherent.exists_parts (h : s.Coherent) (registered : s.predictors.contains key = true) :
    ∃ spec metricKey metric, s.models.find? key = some spec ∧
      splitPredictorKey? key = some (metricKey, spec.tag) ∧
      s.metrics.find? metricKey = some metric := by
  rw [← h.models] at registered
  obtain ⟨spec, hspec⟩ := KeyMap.find?_of_contains registered
  obtain ⟨metricKey, hsplit, hmetric⟩ := h.keys key spec hspec
  obtain ⟨metric, hmetric⟩ := KeyMap.find?_of_contains hmetric
  exact ⟨spec, metricKey, metric, hspec, hsplit, hmetric⟩

theorem Coherent.exists_resolve_eq (h : s.Coherent)
    (registered : s.predictors.contains key = true) :
    ∃ found, s.resolve key = .ok found := by
  obtain ⟨spec, metricKey, metric, hspec, hsplit, hmetric⟩ := h.exists_parts registered
  refine ⟨(spec, metric), ?_⟩
  rw [resolve]
  simp only [hspec, hsplit, hmetric]

/-! ## Removing -/

theorem belongsTo_eq_true_iff : belongsTo metricKey key = true ↔
    ∃ tag, splitPredictorKey? key = some (metricKey, tag) := by
  rw [belongsTo]
  cases splitPredictorKey? key with
  | none => simp
  | some parts =>
    obtain ⟨found, tag⟩ := parts
    simp only [Option.map_some, beq_iff_eq, Option.some.injEq, Prod.mk.injEq]
    exact ⟨fun h => ⟨tag, h, rfl⟩, fun ⟨_, h, _⟩ => h⟩

/-- Removing predictors touches the maps under predictor keys only. -/
theorem foldl_removePredictor (ks : List String) (s : Store) :
    ks.foldl removePredictor s = { s with
      predictors := ks.foldl KeyMap.erase s.predictors
      models := ks.foldl KeyMap.erase s.models
      trainings := ks.foldl KeyMap.erase s.trainings } := by
  induction ks generalizing s with
  | nil => rfl
  | cons k ks ih =>
    rw [List.foldl_cons, ih]
    rfl

/-- The predictors that go with a metric. -/
def dependents (s : Store) (metricKey : String) : List String :=
  s.predictors.keys.filter (belongsTo metricKey)

theorem mem_dependents_iff : key ∈ s.dependents metricKey ↔
    s.predictors.contains key = true ∧ belongsTo metricKey key = true := by
  rw [dependents, List.mem_filter, KeyMap.mem_keys_iff]

theorem remove_eq (s : Store) (metricKey : String) : s.remove metricKey =
    { stops := s.stops.erase metricKey
      metrics := s.metrics.erase metricKey
      collectors := s.collectors.erase metricKey
      models := (s.dependents metricKey).foldl KeyMap.erase s.models
      predictors := (s.dependents metricKey).foldl KeyMap.erase s.predictors
      trainings := (s.dependents metricKey).foldl KeyMap.erase s.trainings } := by
  rw [remove]
  rw [foldl_removePredictor]
  rfl

/-- Nothing is left under the key of a metric that is removed. -/
@[simp] theorem contains_metrics_remove (s : Store) (metricKey : String) :
    (s.remove metricKey).metrics.contains metricKey = false := by
  rw [remove_eq, KeyMap.contains_erase]
  simp

theorem find?_predictors_remove (s : Store) (metricKey key : String) :
    (s.remove metricKey).predictors.find? key =
      if belongsTo metricKey key then none else s.predictors.find? key := by
  rw [remove_eq, KeyMap.find?_foldl_erase]
  simp only [mem_dependents_iff, KeyMap.contains]
  cases s.predictors.find? key <;> simp

theorem find?_collectors_remove (s : Store) (metricKey key : String) :
    (s.remove metricKey).collectors.find? key =
      if metricKey = key then none else s.collectors.find? key := by
  rw [remove_eq, KeyMap.find?_erase]

/-- A metric goes with all that belongs to it, and nothing else goes. -/
theorem Coherent.remove (h : s.Coherent) (metricKey : String) : (s.remove metricKey).Coherent := by
  rw [remove_eq]
  refine ⟨?_, ?_, ?_, ?_, ?_⟩
  · intro key
    rw [KeyMap.contains_erase, KeyMap.contains_erase, h.collectors]
  · intro key
    rw [KeyMap.contains_erase, KeyMap.contains_erase, h.stops]
  · intro key
    rw [KeyMap.contains_foldl_erase, KeyMap.contains_foldl_erase, h.models]
  · intro key htraining
    rw [KeyMap.contains_foldl_erase, Bool.and_eq_true] at htraining ⊢
    exact ⟨htraining.1, h.trainings key htraining.2⟩
  · intro key spec hspec
    rw [KeyMap.find?_foldl_erase] at hspec
    split at hspec
    · cases hspec
    next kept =>
      obtain ⟨found, hsplit, hmetric⟩ := h.keys key spec hspec
      refine ⟨found, hsplit, ?_⟩
      -- a model on the removed metric has a predictor, so it has gone too
      have hne : metricKey ≠ found := by
        rintro rfl
        refine kept (mem_dependents_iff.2 ⟨?_, belongsTo_eq_true_iff.2 ⟨_, hsplit⟩⟩)
        rw [← h.models]
        exact KeyMap.contains_eq_of_find? hspec
      rw [KeyMap.contains_erase, hmetric]
      simp [hne]

/-! ## Installing -/

/-- Tags of models are free of the mark between the parts of keys. -/
theorem keyMark_notMem_tag (spec : ModelSpec) : keyMark ∉ spec.tag.toList := by
  have hseasonal : keyMark ∉ ModelKind.seasonalTag.toList := by decide
  have hremote : keyMark ∉ ModelKind.remoteTag.toList := by decide
  rw [ModelSpec.tag]
  cases spec.kind with
  | seasonal params => exact hseasonal
  | remote params => exact hremote

/-- A model that fits to a store: its key is made of the key of an installed metric and of
its own tag. -/
def Fits (s : Store) (m : InstalledModel) : Prop :=
  ∃ metricKey, splitPredictorKey? m.key = some (metricKey, m.spec.tag) ∧
    s.metrics.contains metricKey = true

/-- Put in a metric without models. -/
def putMetric (s : Store) (metric : Metric) (collector loop : Nat) : Store :=
  { s with
    metrics := s.metrics.insert metric.key metric
    collectors := s.collectors.insert metric.key collector
    stops := s.stops.insert metric.key loop }

theorem install_eq (s : Store) (metric : Metric) (collector loop : Nat)
    (models : List InstalledModel) : s.install metric collector loop models =
      models.foldl putModel (s.putMetric metric collector loop) :=
  rfl

theorem Coherent.putMetric (h : s.Coherent) (metric : Metric) (collector loop : Nat) :
    (s.putMetric metric collector loop).Coherent := by
  refine ⟨?_, ?_, h.models, h.trainings, ?_⟩
  · intro key
    rw [Store.putMetric, KeyMap.contains_insert, KeyMap.contains_insert, h.collectors]
  · intro key
    rw [Store.putMetric, KeyMap.contains_insert, KeyMap.contains_insert, h.stops]
  · intro key spec hspec
    obtain ⟨found, hsplit, hmetric⟩ := h.keys key spec hspec
    refine ⟨found, hsplit, ?_⟩
    rw [Store.putMetric, KeyMap.contains_insert, hmetric, Bool.or_true]

theorem Coherent.putModel (h : s.Coherent) {m : InstalledModel} (fits : s.Fits m) :
    (s.putModel m).Coherent := by
  refine ⟨h.collectors, h.stops, ?_, ?_, ?_⟩
  · intro key
    rw [Store.putModel, KeyMap.contains_insert, KeyMap.contains_insert, h.models]
  · intro key htraining
    rw [Store.putModel, KeyMap.contains_insert, h.trainings key htraining, Bool.or_true]
  · intro key spec hspec
    rw [Store.putModel, KeyMap.find?_insert] at hspec
    split at hspec
    · next hkey =>
      obtain rfl := hkey
      cases hspec
      exact fits
    · exact h.keys key spec hspec

theorem Coherent.foldl_putModel (h : s.Coherent) {models : List InstalledModel}
    (fit : ∀ m ∈ models, s.Fits m) : (models.foldl Store.putModel s).Coherent := by
  induction models generalizing s with
  | nil => exact h
  | cons m models ih =>
    refine ih (h.putModel (fit m List.mem_cons_self)) ?_
    exact fun m' hm' => fit m' (List.mem_cons_of_mem _ hm')

/-- A metric is put in with models of its own. -/
theorem Coherent.install (h : s.Coherent) {metric : Metric} {models : List InstalledModel}
    (own : ∀ m ∈ models, m.key = metric.predictorKey m.spec.tag) (collector loop : Nat) :
    (s.install metric collector loop models).Coherent := by
  rw [install_eq]
  refine (h.putMetric metric collector loop).foldl_putModel ?_
  intro m hm
  refine ⟨metric.key, ?_, ?_⟩
  · rw [own m hm, splitPredictorKey?_predictorKey]
    exact keyMark_notMem_tag m.spec
  · rw [Store.putMetric, KeyMap.contains_insert]
    simp

theorem foldl_putModel_eq (models : List InstalledModel) (s : Store) :
    models.foldl putModel s = { s with
      models := models.foldl (fun x m => x.insert m.key m.spec) s.models
      predictors := models.foldl (fun x m => x.insert m.key m.predictor) s.predictors } := by
  induction models generalizing s with
  | nil => rfl
  | cons m models ih =>
    rw [List.foldl_cons, ih]
    rfl

/-- A predictor is among those that are put in, or it was there before. -/
theorem find?_predictors_install {metric : Metric} {collector loop n : Nat}
    {models : List InstalledModel}
    (h : (s.install metric collector loop models).predictors.find? key = some n) :
    (∃ m ∈ models, m.key = key ∧ m.predictor = n) ∨ s.predictors.find? key = some n := by
  rw [install_eq, foldl_putModel_eq] at h
  change (models.foldl (fun x m => x.insert m.key m.predictor) s.predictors).find? key = _ at h
  generalize s.predictors = predictors at h ⊢
  induction models generalizing predictors with
  | nil => exact .inr h
  | cons m models ih =>
    rcases ih _ h with ⟨m', hm', found⟩ | hold
    · exact .inl ⟨m', List.mem_cons_of_mem _ hm', found⟩
    · rw [KeyMap.find?_insert] at hold
      split at hold
      · next hkey => exact .inl ⟨m, List.mem_cons_self, hkey, Option.some.inj hold⟩
      · exact .inr hold

theorem find?_collectors_install (s : Store) (metric : Metric) (collector loop : Nat)
    (models : List InstalledModel) (key : String) :
    (s.install metric collector loop models).collectors.find? key =
      if metric.key = key then some collector else s.collectors.find? key := by
  rw [install_eq, foldl_putModel_eq]
  exact KeyMap.find?_insert _ _ _ _

/-! ## Trainings -/

/-- Only a registered predictor may have a training. -/
theorem Coherent.withTrainings (h : s.Coherent) {trainings : KeyMap String TrainingRecord}
    (known : ∀ key, trainings.contains key = true → s.predictors.contains key = true) :
    ({ s with trainings } : Store).Coherent :=
  ⟨h.collectors, h.stops, h.models, known, h.keys⟩

end Store

end PredictiveScaling
