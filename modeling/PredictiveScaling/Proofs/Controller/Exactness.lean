import PredictiveScaling.Proofs.Controller.Identity
import PredictiveScaling.Proofs.Health.Presence
import PredictiveScaling.Proofs.Store.Removal

/-!
# What removing changes

A metric goes with its collector, the loop that fills it is told, and its predictors go with their
models and trainings. Nothing else changes: keys of other metrics may begin with that of the metric,
and tags of models may stand in them, but a predictor key belongs to one metric only. That the loop
which is told is one of the metric rests on the stops, which name loops of their own keys as long as
metrics come and go as a whole (`Controller.sound_foldl_pass`). So installing a metric that is not
there and removing it leaves what was in store before (`Controller.removes_exactly`).
-/
namespace PredictiveScaling.Controller

variable {c : Controller} {m : Metric} {specs : List ModelSpec} {config : CollectionConfig}

/-! ## Loops -/

/-- Stops name loops of their keys, whatever is installed, removed and evaluated. -/
theorem sound_undergo (h : c.rota.Sound) {x : Happening} (admitted : c.Admits x) :
    (c.undergo x).rota.Sound := by
  cases x with
  | event x => exact h.effect (c.rota_takes (.event x))
  | evaluate => exact h.effect (c.rota_takes .evaluate)
  | install metric specs config => exact h.effect (c.rota_takes (.install metric specs config))
  | remove metricKey => exact h.effect (c.rota_takes (.remove metricKey))
  | erase part key => exact admitted.elim

theorem sound_foldl_pass {s : Controller × List Call} {xs : List (Moment × Happening)}
    (h : s.1.rota.Sound) (admitted : AdmitsAlong s xs) : (xs.foldl pass s).1.rota.Sound := by
  induction xs generalizing s with
  | nil => exact h
  | cons x xs ih =>
    have hnow : ({ s.1 with now := x.1, outbox := [] } : Controller).rota.Sound := h
    exact ih (s := pass s x) (sound_undergo hnow (x := x.2) admitted.1) admitted.2

/-- A loop is told, and maybe woken up. -/
theorem signalIfAny_eq (c : Controller) (loop : Option Nat) : c.signalIfAny loop = { c with
    collectionLoops := (c.signalIfAny loop).collectionLoops
    outbox := (c.signalIfAny loop).outbox } := by
  cases loop with
  | none => rfl
  | some i =>
    rw [signalIfAny, signalCollection]
    split
    · rfl
    · dsimp only
      split <;> rfl

theorem outbox_signalIfAny (c : Controller) (loop : Option Nat) :
    ∀ x ∈ (c.signalIfAny loop).outbox,
      x ∈ c.outbox ∨ ∃ i, loop = some i ∧ x = .wake c.now.timer (.collectionSignalled i) := by
  intro x hx
  cases loop with
  | none => exact .inl hx
  | some i =>
    rw [signalIfAny, signalCollection] at hx
    split at hx
    · exact .inl hx
    · dsimp only at hx
      split at hx
      · rcases List.mem_append.1 hx with hx | hx
        · exact .inl hx
        · exact .inr ⟨i, rfl, List.mem_singleton.1 hx⟩
      · exact .inl hx

/-! ## Removing -/

/-- A metric goes with all that belongs to it, and nothing else changes. -/
structure Removes (c c' : Controller) (metricKey : String) : Prop where
  metrics : c.store.metrics.Restricts c'.store.metrics (· ≠ metricKey)
  collectors : c.store.collectors.Restricts c'.store.collectors (· ≠ metricKey)
  stops : c.store.stops.Restricts c'.store.stops (· ≠ metricKey)
  models : c.store.models.Restricts c'.store.models
    fun key => ¬ ∃ tag, splitPredictorKey? key = some (metricKey, tag)
  predictors : c.store.predictors.Restricts c'.store.predictors
    fun key => ¬ ∃ tag, splitPredictorKey? key = some (metricKey, tag)
  trainings : c.store.trainings.Restricts c'.store.trainings
    fun key => ¬ ∃ tag, splitPredictorKey? key = some (metricKey, tag)
  /-- The loop of the metric is told. -/
  told : ∀ i, c.store.stops.find? metricKey = some i → ∃ l, c.collectionLoops.get? i = some l ∧
    l.key = metricKey ∧ c'.collectionLoops.get? i = some { l with signalled := true }
  loops : ∀ i, c.store.stops.find? metricKey ≠ some i →
    c'.collectionLoops.get? i = c.collectionLoops.get? i
  /-- If something is called for, it is that this loop takes notice. -/
  calls : ∀ x ∈ c'.outbox, x ∈ c.outbox ∨ ∃ i, c.store.stops.find? metricKey = some i ∧
    x = .wake c.now.timer (.collectionSignalled i)
  rest : c' = { c with
    store := c'.store, collectionLoops := c'.collectionLoops, outbox := c'.outbox }

theorem removes_remove (coherent : c.store.Coherent) (sound : c.rota.Sound) (metricKey : String) :
    c.Removes (c.remove metricKey) metricKey := by
  have hstore : (c.remove metricKey).store = c.store.sparing metricKey :=
    (c.store_remove metricKey).trans (coherent.remove_eq_sparing metricKey)
  have hmetric : ∀ key, decide (key ≠ metricKey) = true ↔ key ≠ metricKey :=
    fun _ => decide_eq_true_iff
  have hpredictor : ∀ key, (!Store.belongsTo metricKey key) = true ↔
      ¬ ∃ tag, splitPredictorKey? key = some (metricKey, tag) := by
    intro key
    rw [Bool.not_eq_true', Bool.eq_false_iff, ne_eq, Store.belongsTo_eq_true_iff]
  have hloops : ∀ i, (c.remove metricKey).collectionLoops.get? i =
      (c.rota.without metricKey).loops.get? i := fun i => by
    rw [← rota_remove]
    rfl
  constructor
  · exact hstore ▸ KeyMap.restricts_filterKeys hmetric _
  · exact hstore ▸ KeyMap.restricts_filterKeys hmetric _
  · exact hstore ▸ KeyMap.restricts_filterKeys hmetric _
  · exact hstore ▸ KeyMap.restricts_filterKeys hpredictor _
  · exact hstore ▸ KeyMap.restricts_filterKeys hpredictor _
  · exact hstore ▸ KeyMap.restricts_filterKeys hpredictor _
  · intro i named
    obtain ⟨l, found, hkey⟩ := sound.names metricKey i named
    refine ⟨l, found, hkey, (hloops i).trans ?_⟩
    exact (Rota.get?_without found metricKey).trans (congrArg some (if_pos named))
  · intro i other
    rw [hloops]
    cases found : c.collectionLoops.get? i with
    | some l => exact (Rota.get?_without found metricKey).trans (congrArg some (if_neg other))
    | none =>
      rw [Arena.get?_eq_none_iff] at found ⊢
      rwa [Rota.size_without]
  · exact outbox_signalIfAny _ _
  · calc c.remove metricKey = { c with
          store := c.store.remove metricKey
          collectionLoops := (c.remove metricKey).collectionLoops
          outbox := (c.remove metricKey).outbox } := signalIfAny_eq _ _
      _ = _ := by rw [store_remove]

/-! ## Installing and removing -/

/-- To remove what has been cleared away already changes nothing. -/
theorem store_remove_cleared (coherent : c.store.Coherent) (metricKey : String) :
    (c.cleared metricKey).store.Coherent ∧
      (c.cleared metricKey).store.remove metricKey = c.store.remove metricKey := by
  rw [cleared]
  split
  · have hremoved := coherent.remove metricKey
    rw [store_remove]
    refine ⟨hremoved, ?_⟩
    rw [hremoved.remove_eq_sparing]
    exact hremoved.sparing_of_absent (c.store.contains_metrics_remove metricKey)
  · exact ⟨coherent, rfl⟩

/-- Whatever an installation has put in goes again with the metric. -/
theorem store_remove_install (coherent : c.store.Coherent) (m : Metric) (specs : List ModelSpec)
    (config : CollectionConfig) :
    ((c.install m specs config).2.remove m.key).store = c.store.remove m.key := by
  obtain ⟨hcoherent, hcleared⟩ := store_remove_cleared coherent m.key
  rw [store_remove]
  cases hresult : (c.install m specs config).1 with
  | error fault => rw [(install_of_error hresult).2, hcleared]
  | ok keys =>
    obtain ⟨made, hmade, hholdings⟩ := holdings_install (Prod.ext hresult rfl)
    have hstore : (c.install m specs config).2.store = (c.cleared m.key).store.install m _ _ _ :=
      congrArg Holdings.store hholdings
    rw [hstore, hcoherent.remove_install fun x hx => (of_mem_installedModels hmade hx).2]
    exact hcleared

/-- Metrics are installed, removed and evaluated from the beginning on, one thing after the other.
Then removing a metric takes away what is under its key and the predictors, models and trainings
whose keys are made of it and a tag, tells its loop, and changes nothing else. To install a metric
that is not there and to remove it leaves the store as it was. -/
theorem removes_exactly (instanceName : String) (workload : Workload) (scaler : ScalerConfig)
    (evaluation : EvaluationConfig) {xs : List (Moment × Happening)}
    (admitted : AdmitsAlong (new instanceName workload scaler evaluation, []) xs) :
    let c := (xs.foldl pass (new instanceName workload scaler evaluation, [])).1
    (∀ metricKey, c.Removes (c.remove metricKey) metricKey) ∧
      ∀ m specs config, c.store.metrics.contains m.key = false →
        ((c.install m specs config).2.remove m.key).store = c.store := by
  have order : InOrder _ := (inOrder_new instanceName workload scaler evaluation).foldl_pass
    (s := (new instanceName workload scaler evaluation, [])) admitted
  have sound := sound_foldl_pass (s := (new instanceName workload scaler evaluation, []))
    (rota_sound_new instanceName workload scaler evaluation) admitted
  have coherent := order.consistent.coherent
  refine ⟨removes_remove coherent sound, fun m specs config absent => ?_⟩
  exact (store_remove_install coherent m specs config).trans
    ((coherent.remove_eq_sparing m.key).trans (coherent.sparing_of_absent absent))

/-- The key of the second metric is that of the predictor of the first one. -/
def nested : List (Moment × Happening) :=
  [.install ⟨"cpu", "", "q", 1.0, 100, .none⟩ [smoothing 4] .default,
    .install ⟨"cpu", "", "q$holt_winters", 1.0, 100, .none⟩ [smoothing 4] .default,
    .evaluate].map fun x => (⟨0, 0⟩, x)

/-- When the first metric goes the second one stays, with its predictor and its loop. -/
theorem removes_exactly_nested :
    let c := (nested.foldl pass
      (new "controller" ⟨"default", "web", "deployment"⟩ default .default, [])).1
    let c' := c.remove "cpu$$q"
    c'.store.predictors.find? "cpu$$q$holt_winters" = none ∧
      c'.store.metrics.contains "cpu$$q$holt_winters" = true ∧
      c'.store.predictors.find? "cpu$$q$holt_winters$holt_winters" = some 1 ∧
      c'.store.trainings.find? "cpu$$q$holt_winters$holt_winters" = some ⟨0, 1⟩ ∧
      c'.collectionLoops.get? 1 = c.collectionLoops.get? 1 ∧
      ((c.install ⟨"memory", "", "q", 1.0, 100, .none⟩ [smoothing 4] .default).2.remove
        "memory$$q").store = c.store := by
  have admitted : AdmitsAlong (new "controller" ⟨"default", "web", "deployment"⟩ default .default,
      []) nested := by decide +kernel
  obtain ⟨removes, restores⟩ := removes_exactly "controller" ⟨"default", "web", "deployment"⟩
    default .default admitted
  have gone := removes "cpu$$q"
  have parts : splitPredictorKey? "cpu$$q$holt_winters$holt_winters" =
      some ("cpu$$q$holt_winters", "holt_winters") := by decide +kernel
  have kept : ¬ ∃ tag, splitPredictorKey? "cpu$$q$holt_winters$holt_winters" =
      some ("cpu$$q", tag) := by
    rintro ⟨tag, other⟩
    have same : "cpu$$q$holt_winters" = "cpu$$q" :=
      congrArg Prod.fst (Option.some.inj (parts.symm.trans other))
    exact absurd same (by decide)
  refine ⟨?_, ?_, ?_, ?_, ?_, ?_⟩
  · refine Option.eq_none_iff_forall_ne_some.2 fun id found => ?_
    exact ((gone.predictors _ id).1 found).2 ⟨"holt_winters", by decide +kernel⟩
  · obtain ⟨metric, found⟩ := KeyMap.find?_of_contains (by decide +kernel :
      ((nested.foldl pass (new "controller" ⟨"default", "web", "deployment"⟩ default .default, [])
        ).1.store.metrics.contains "cpu$$q$holt_winters" = true))
    exact KeyMap.contains_eq_of_find? ((gone.metrics _ metric).2 ⟨found, by decide⟩)
  · exact (gone.predictors _ 1).2 ⟨by decide +kernel, kept⟩
  · exact (gone.trainings _ _).2 ⟨by decide +kernel, kept⟩
  · exact gone.loops 1 (by decide +kernel)
  · exact restores ⟨"memory", "", "q", 1.0, 100, .none⟩ [smoothing 4] .default (by decide +kernel)

end PredictiveScaling.Controller
