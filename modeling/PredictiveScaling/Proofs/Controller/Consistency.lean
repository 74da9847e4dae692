import PredictiveScaling.Proofs.Controller.Install
import PredictiveScaling.Proofs.Evaluation.Tick

/-!
# Consistency

Metrics are installed, replaced and removed, installing may fail, and in between there are
rounds of evaluation with all that happens in them. As long as nothing is installed or
removed while a round waits in the middle of its visit, the maps of the store fit together
throughout, every registered predictor can be resolved, and it reads the collector that is
registered for its metric. Metric keys may contain the mark that stands between the parts of
keys; the tags of models do not, so a predictor key still tells the metric it belongs to.
-/
namespace PredictiveScaling

namespace Inventory

/-- The store is coherent, collectors are registered for their own metrics, and predictors
under their own keys; a predictor reads the collector registered for its metric. -/
structure Consistent (x : Inventory) : Prop where
  coherent : x.store.Coherent
  collectors : ∀ key n, x.store.collectors.find? key = some n → x.collector? n = some key
  predictors : ∀ key n, x.store.predictors.find? key = some n → ∃ metricKey tag collector,
    splitPredictorKey? key = some (metricKey, tag) ∧ x.predictor? n = some (key, collector) ∧
      x.store.collectors.find? metricKey = some collector

variable {x y : Inventory} {keys : List String}

/-- Trainings of registered predictors may be kept in mind. -/
theorem Records.consistent (h : x.Records y keys) (hx : x.Consistent)
    (registered : ∀ key ∈ keys, x.store.predictors.contains key = true) : y.Consistent := by
  obtain ⟨store, collector?, predictor?⟩ := y
  obtain rfl : collector? = x.collector? := h.collector?_eq
  obtain rfl : predictor? = x.predictor? := h.predictor?_eq
  have hstore := h.store_eq
  have htrainings := h.of_trainings
  dsimp only at hstore htrainings
  rw [hstore]
  refine ⟨hx.coherent.withTrainings fun key hkey => ?_, hx.collectors, hx.predictors⟩
  rcases htrainings key hkey with hold | hnew
  · exact hx.coherent.trainings key hold
  · exact registered key hnew

theorem Records.predictors_eq (h : x.Records y keys) :
    y.store.predictors = x.store.predictors := by
  rw [h.store_eq]

/-- Predictors go with the metrics that they belong to. -/
theorem Consistent.remove (h : x.Consistent) (metricKey : String) :
    ({ x with store := x.store.remove metricKey } : Inventory).Consistent := by
  refine ⟨h.coherent.remove metricKey, ?_, ?_⟩
  · intro key n hkey
    change (x.store.remove metricKey).collectors.find? key = some n at hkey
    rw [Store.find?_collectors_remove] at hkey
    split at hkey
    · cases hkey
    · exact h.collectors key n hkey
  · intro key n hkey
    change (x.store.remove metricKey).predictors.find? key = some n at hkey
    rw [Store.find?_predictors_remove] at hkey
    split at hkey
    · cases hkey
    next stays =>
      obtain ⟨found, tag, collector, hsplit, hpredictor, hcollector⟩ := h.predictors key n hkey
      refine ⟨found, tag, collector, hsplit, hpredictor, ?_⟩
      have hne : metricKey ≠ found := by
        rintro rfl
        exact stays (Store.belongsTo_eq_true_iff.2 ⟨tag, hsplit⟩)
      change (x.store.remove metricKey).collectors.find? found = some collector
      rw [Store.find?_collectors_remove, if_neg hne]
      exact hcollector

/-- A metric that was not there before is installed with its own models, whose predictors
read its own collector. What is registered already keeps its number. -/
theorem Consistent.install (h : x.Consistent) {metric : Metric} {collector loop : Nat}
    {models : List InstalledModel} (fresh : x.store.metrics.contains metric.key = false)
    (store : y.store = x.store.install metric collector loop models)
    (collectors : ∀ n key, x.collector? n = some key → y.collector? n = some key)
    (predictors : ∀ n p, x.predictor? n = some p → y.predictor? n = some p)
    (new : y.collector? collector = some metric.key)
    (own : ∀ m ∈ models, m.key = metric.predictorKey m.spec.tag ∧
      y.predictor? m.predictor = some (m.key, collector)) : y.Consistent := by
  refine ⟨?_, ?_, ?_⟩
  · rw [store]
    exact h.coherent.install (fun m hm => (own m hm).1) collector loop
  · intro key n hkey
    rw [store, Store.find?_collectors_install] at hkey
    split at hkey
    · next hmetric =>
      obtain rfl := hmetric
      obtain rfl : collector = n := Option.some.inj hkey
      exact new
    · exact collectors n key (h.collectors key n hkey)
  · intro key n hkey
    rw [store] at hkey ⊢
    rcases Store.find?_predictors_install hkey with ⟨m, hm, rfl, rfl⟩ | hold
    · obtain ⟨hm_key, hm_predictor⟩ := own m hm
      refine ⟨metric.key, m.spec.tag, collector, ?_, hm_predictor, ?_⟩
      · rw [hm_key]
        exact splitPredictorKey?_predictorKey metric _ (Store.keyMark_notMem_tag m.spec)
      · rw [Store.find?_collectors_install, if_pos rfl]
    · obtain ⟨found, tag, old, hsplit, hpredictor, hcollector⟩ := h.predictors key n hold
      refine ⟨found, tag, old, hsplit, predictors n _ hpredictor, ?_⟩
      -- a collector is registered for the metric of the old predictor, so it is another metric
      have hne : metric.key ≠ found := by
        rintro rfl
        have there := KeyMap.contains_eq_of_find? hcollector
        rw [h.coherent.collectors, fresh] at there
        cases there
      rw [Store.find?_collectors_install, if_neg hne]
      exact hcollector

end Inventory

namespace Controller

variable {c : Controller}

/-! ## Installing and removing -/

/-- An installed model is among those that were made, and its number tells which one. -/
theorem exists_of_mem_installedModels {n : Nat} {made : List (ModelSpec × Predictor)}
    {m : InstalledModel} (h : m ∈ installedModels n made) :
    ∃ i p, made[i]? = some (m.spec, p) ∧ m.key = p.key ∧ m.predictor = n + i := by
  induction made generalizing n with
  | nil => cases h
  | cons x made ih =>
    obtain ⟨spec, p⟩ := x
    rcases List.mem_cons.1 h with rfl | h
    · exact ⟨0, p, rfl, rfl, rfl⟩
    · obtain ⟨i, p', hi, hkey, hpredictor⟩ := ih h
      exact ⟨i + 1, p', hi, hkey, by omega⟩

theorem collector?_push {collectors : Arena Collector} {n : Nat} {key : String}
    (h : (collectors.get? n).map Collector.key = some key) (x : Collector) :
    ((collectors.push x).get? n).map Collector.key = some key := by
  obtain ⟨found, hfound, _⟩ := Option.map_eq_some_iff.1 h
  rw [Arena.get?_push_of_lt _ _ (Arena.lt_size_of_get? hfound)]
  exact h

theorem predictor?_append {predictors : Arena Predictor} {n : Nat} {p : String × Nat}
    (h : (predictors.get? n).map (fun p => (p.key, p.collector)) = some p)
    (l : List Predictor) :
    ((predictors.append l).get? n).map (fun p => (p.key, p.collector)) = some p := by
  obtain ⟨found, hfound, _⟩ := Option.map_eq_some_iff.1 h
  rw [Arena.get?_append_of_lt _ _ (Arena.lt_size_of_get? hfound)]
  exact h

theorem consistent_cleared (h : c.inventory.Consistent) (metricKey : String) :
    (c.cleared metricKey).inventory.Consistent := by
  rw [cleared]
  split
  · rw [inventory_remove]
    exact h.remove metricKey
  · exact h

/-- Installing keeps what is in store consistent, also when it fails. -/
theorem consistent_install (h : c.inventory.Consistent) (metric : Metric)
    (specs : List ModelSpec) (config : CollectionConfig) :
    (c.install metric specs config).2.inventory.Consistent := by
  have hcleared := consistent_cleared h metric.key
  have hfresh := c.contains_metrics_cleared metric.key
  rw [install]
  rw [← cleared]
  generalize c.cleared metric.key = c at hcleared hfresh ⊢
  dsimp only
  split
  · exact hcleared
  · next made hmade =>
    dsimp only
    rw [inventory_signalIfAny]
    refine hcleared.install hfresh rfl ?_ ?_ ?_ ?_
    · exact fun n key hn => collector?_push hn _
    · exact fun n p hn => predictor?_append hn _
    · change ((c.collectors.push _).get? c.collectors.size).map Collector.key = _
      rw [Arena.get?_push_self]
      rfl
    · intro m hm
      obtain ⟨i, p, hi, hkey, hpredictor⟩ := exists_of_mem_installedModels hm
      obtain ⟨hp_key, hp_collector⟩ := of_mem_made hmade _ (List.mem_of_getElem? hi)
      refine ⟨hkey.trans hp_key, ?_⟩
      change ((c.predictors.append (made.map Prod.snd)).get? m.predictor).map _ = _
      rw [hpredictor, Arena.get?_append_add, List.getElem?_map, hi, hkey, ← hp_collector]
      rfl

/-- A registered predictor reads the collector that is registered for its metric. -/
theorem exists_registeredCollector_eq (h : c.inventory.Consistent) {key : String} {n : Nat}
    (hkey : c.store.predictors.find? key = some n) : ∃ p metricKey tag x,
      c.predictors.get? n = some p ∧ splitPredictorKey? key = some (metricKey, tag) ∧
        c.registeredCollector? metricKey = some (p.collector, x) := by
  obtain ⟨metricKey, tag, collector, hsplit, hpredictor, hcollector⟩ := h.predictors key n hkey
  obtain ⟨p, hp, hparts⟩ := Option.map_eq_some_iff.1 hpredictor
  obtain ⟨x, hx, _⟩ := Option.map_eq_some_iff.1 (h.collectors _ _ hcollector)
  cases hparts
  refine ⟨p, metricKey, tag, x, hp, hsplit, ?_⟩
  have hcollector : c.store.collectors.find? metricKey = some p.collector := hcollector
  simp only [registeredCollector?, hcollector, hx, Option.bind_eq_bind, Option.bind_some,
    Option.pure_def]

/-! ## One thing after the other -/

/-- What is in store is consistent, and the rounds have only registered predictors before
them. -/
structure InOrder (c : Controller) : Prop where
  consistent : c.inventory.Consistent
  visiting : ∀ id e, c.evaluations.get? id = some e →
    ∀ key ∈ e.visiting, c.store.predictors.contains key = true

/-- No round waits in the middle of its visit. -/
def AtRest (c : Controller) : Prop := ∀ e ∈ c.evaluations.toList, e.visiting = []

instance (c : Controller) : Decidable c.AtRest :=
  inferInstanceAs (Decidable (∀ e ∈ c.evaluations.toList, e.visiting = []))

/-- Metrics are installed and removed as a whole, and not in the middle of a visit. -/
def Admits (c : Controller) : Happening → Prop
  | .event _ | .evaluate => True
  | .install .. | .remove _ => c.AtRest
  | .erase .. => False

instance (c : Controller) (x : Happening) : Decidable (c.Admits x) :=
  match x with
  | .event _ | .evaluate => inferInstanceAs (Decidable True)
  | .install .. | .remove _ => inferInstanceAs (Decidable c.AtRest)
  | .erase .. => inferInstanceAs (Decidable False)

theorem inOrder_new (instanceName : String) (workload : Workload) (scaler : ScalerConfig)
    (evaluation : EvaluationConfig) : (new instanceName workload scaler evaluation).InOrder := by
  refine ⟨⟨Store.coherent_empty, ?_, ?_⟩, ?_⟩
  · intro key n h
    cases h
  · intro key n h
    cases h
  · intro id e h
    cases h

/-! ### What rounds have before them -/

theorem ahead_settled_sublist (s : Stage) (e : Evaluation) :
    (s.settled e).ahead.Sublist e.ahead := by
  rw [Stage.settled]
  split
  · have haimed : (s.aimed e).ahead = [] := by
      simp only [Stage.aimed, Evaluation.withGoal]
      split <;> rfl
    rw [haimed]
    exact List.nil_sublist _
  · exact .refl _

theorem ahead_received_sublist (s : Stage) (e : Evaluation) (i : Nat) (p : Prediction)
    (forecast : Option Forecast) : (s.received e i p forecast).ahead.Sublist e.ahead := by
  cases forecast with
  | none => exact ahead_settled_sublist s (e.finish i p.key none)
  | some f =>
    simp only [Stage.received]
    split
    · exact .refl _
    · exact ahead_settled_sublist s (e.finish i p.key _)

/-- After a visit a round has none but predictors of that visit before it. -/
theorem ahead_sublist_of_visits {s : Stage} {e e' : Evaluation} {l : List (String × Nat)}
    (joining : e.phase = .joining) (hv : s.Visits e l e') : e'.ahead.Sublist l := by
  cases hv with
  | all =>
    have hnone : ({ e with predictions := e.predictions ++ s.installed.visited l } :
        Evaluation).ahead = [] := by
      rw [Evaluation.ahead]
      dsimp only
      rw [joining]
    refine (ahead_settled_sublist s _).trans ?_
    rw [hnone]
    exact List.nil_sublist _
  | suspended before d split =>
    rw [split]
    exact List.sublist_append_right _ _

/-- A round that advances has nothing new before it. -/
theorem Advances.ahead_sublist {id : Nat} {e e' : Evaluation} {x : Happening} {scaler : Scaler}
    {issued : List Int32} (how : c.Advances id e x scaler e' issued) :
    e'.ahead.Sublist e.ahead := by
  cases how with
  | brings _ _ _ _ => exact ahead_received_sublist _ _ _ _ _
  | asks _ _ _ _ => exact .refl _
  | answers _ _ _ => exact ahead_received_sublist _ _ _ _ _
  | counts _ _ _ => exact ahead_settled_sublist _ (e.finish _ _ _)
  | resumes dispatching visits =>
    rw [Evaluation.ahead.eq_def e]
    rw [dispatching]
    exact (ahead_sublist_of_visits rfl visits).trans (List.sublist_cons_self _ _)
  | abandoned | unread _ | rests _ _ | sets _ _ | ends _ => exact List.nil_sublist _

/-- What is so for the registered predictors, and for what a round has before it whenever it is so
for more, stays so. -/
theorem Effect.ahead {x : Happening} {s : Stage} {P : List (String × Nat) → Prop}
    (effect : c.Effect x s) (mono : ∀ {l l'}, l.Sublist l' → P l' → P l)
    (all : P c.store.predictors.toList)
    (h : ∀ id e, c.evaluations.get? id = some e → P e.ahead) :
    ∀ id e, s.evaluations.get? id = some e → P e.ahead := by
  refine effect.rounds (P := fun e => P e.ahead) ?_ ?_ h
  · exact fun owner n e visits => mono (ahead_sublist_of_visits rfl visits) all
  · exact fun id e e' scaler issued how before => mono how.ahead_sublist before

theorem Effect.visiting {x : Happening} {s : Stage} (effect : c.Effect x s)
    (h : ∀ id e, c.evaluations.get? id = some e →
      ∀ key ∈ e.visiting, c.store.predictors.contains key = true) :
    ∀ id e, s.evaluations.get? id = some e →
      ∀ key ∈ e.visiting, c.store.predictors.contains key = true := by
  simp only [Evaluation.visiting_eq] at h ⊢
  refine effect.ahead (P := fun l => ∀ key ∈ l.map Prod.fst,
    c.store.predictors.contains key = true) ?_ ?_ h
  · exact fun sub hl key hkey => hl key ((sub.map Prod.fst).subset hkey)
  · exact fun key hkey => (KeyMap.mem_keys_iff _ _).1 hkey

/-! ### Steps and runs -/

theorem InOrder.registered_of_canVisit (h : c.InOrder) {key : String} (hkey : c.CanVisit key) :
    c.store.predictors.contains key = true := by
  rcases hkey with hregistered | ⟨id, e, found, hmem⟩
  · exact hregistered
  · exact h.visiting id e found key hmem

/-- What only keeps trainings in mind keeps the order. -/
theorem InOrder.of_keeps (h : c.InOrder) {x : Happening} (keeps : c.Keeps (c.undergo x)) :
    (c.undergo x).InOrder := by
  obtain ⟨keys, records, canVisit⟩ := keeps
  refine ⟨records.consistent h.consistent fun key hkey =>
    h.registered_of_canVisit (canVisit key hkey), ?_⟩
  have hpredictors : (c.undergo x).store.predictors = c.store.predictors := records.predictors_eq
  rw [hpredictors]
  exact (effect_undergo c x).visiting h.visiting

/-- While no round visits, something else may be installed. -/
theorem InOrder.of_atRest (rest : c.AtRest) {c' : Controller}
    (consistent : c'.inventory.Consistent) (evaluations : c'.evaluations = c.evaluations) :
    c'.InOrder := by
  refine ⟨consistent, ?_⟩
  intro id e found key hkey
  rw [evaluations] at found
  rw [rest e (List.mem_of_getElem? found)] at hkey
  cases hkey

/-- Whatever is admitted keeps the order. -/
theorem InOrder.undergo (h : c.InOrder) {x : Happening} (admitted : c.Admits x) :
    (c.undergo x).InOrder := by
  cases x with
  | event x => exact h.of_keeps (c.keeps_handle x)
  | evaluate => exact h.of_keeps (c.keeps_beginEvaluation none)
  | install metric specs config =>
    obtain ⟨installed, hstage⟩ := c.stage_install metric specs config
    exact .of_atRest admitted (consistent_install h.consistent metric specs config)
      (congrArg Stage.evaluations hstage)
  | remove metricKey =>
    refine .of_atRest admitted ?_ (congrArg Stage.evaluations (c.stage_remove metricKey))
    rw [Controller.undergo, inventory_remove]
    exact h.consistent.remove metricKey
  | erase part key => exact admitted.elim

/-- All that happens is admitted when it happens. -/
def AdmitsAlong (s : Controller × List Call) : List (Moment × Happening) → Prop
  | [] => True
  | x :: xs => s.1.Admits x.2 ∧ AdmitsAlong (pass s x) xs

instance decidableAdmitsAlong (s : Controller × List Call) :
    (xs : List (Moment × Happening)) → Decidable (AdmitsAlong s xs)
  | [] => .isTrue trivial
  | x :: xs =>
    have := decidableAdmitsAlong (pass s x) xs
    inferInstanceAs (Decidable (_ ∧ AdmitsAlong (pass s x) xs))

theorem InOrder.foldl_pass {s : Controller × List Call} {xs : List (Moment × Happening)}
    (h : s.1.InOrder) (admitted : AdmitsAlong s xs) : (xs.foldl pass s).1.InOrder := by
  induction xs generalizing s with
  | nil => exact h
  | cons x xs ih =>
    have hnow : ({ s.1 with now := x.1, outbox := [] } : Controller).InOrder :=
      ⟨h.consistent, h.visiting⟩
    have hstep := hnow.undergo (x := x.2) admitted.1
    exact ih (s := pass s x) ⟨hstep.consistent, hstep.visiting⟩ admitted.2

/-- Whatever is installed, removed and evaluated from the beginning on, if it happens one thing
after the other: the maps of the store fit together, every registered predictor has its model
and its metric, and it reads the collector that is registered under its metric key. -/
theorem consistent_foldl_pass (instanceName : String) (workload : Workload)
    (scaler : ScalerConfig) (evaluation : EvaluationConfig) {xs : List (Moment × Happening)}
    (admitted : AdmitsAlong (new instanceName workload scaler evaluation, []) xs) :
    let c := (xs.foldl pass (new instanceName workload scaler evaluation, [])).1
    c.store.Coherent ∧
      (∀ key, c.store.predictors.contains key = true →
        ∃ found, c.store.resolve key = .ok found) ∧
      ∀ key n, c.store.predictors.find? key = some n → ∃ p metricKey tag x,
        c.predictors.get? n = some p ∧ splitPredictorKey? key = some (metricKey, tag) ∧
          c.registeredCollector? metricKey = some (p.collector, x) := by
  have order : InOrder _ := (inOrder_new instanceName workload scaler evaluation).foldl_pass
    (s := (new instanceName workload scaler evaluation, [])) admitted
  exact ⟨order.consistent.coherent, fun key => order.consistent.coherent.exists_resolve_eq,
    fun key n => exists_registeredCollector_eq order.consistent⟩

/-- Two metrics come to the same key; the second one replaces the first one after a tick. A
third one cannot be installed. -/
def replacement : List (Moment × Happening) :=
  [.install ⟨"cpu$user", "", "q", 1.0, 100, .none⟩ [smoothing 4] .default,
    .evaluate, .event (.predictionStarts 0 0),
    .install ⟨"memory", "", "q", 1.0, 100, .none⟩ [smoothing 4, smoothing 5] .default,
    .install ⟨"cpu", "user$", "q", 2.0, 100, .none⟩ [smoothing 6] .default,
    .evaluate].map fun x => (⟨0, 0⟩, x)

/-- The key is that of the second metric now. Its predictor reads the second collector. -/
theorem consistent_foldl_pass_replacement :
    let start := new "controller" ⟨"default", "web", "deployment"⟩ default .default
    let c := (replacement.foldl pass (start, [])).1
    c.store.metrics.contains "memory$$q" = false ∧
      c.store.collectors.find? "cpu$user$$q" = some 1 ∧
      c.store.trainings.find? "cpu$user$$q$holt_winters" = some ⟨0, 1⟩ ∧
      (∃ found, c.store.resolve "cpu$user$$q$holt_winters" = .ok found) ∧
      ∃ p metricKey tag x, c.predictors.get? 1 = some p ∧
        splitPredictorKey? "cpu$user$$q$holt_winters" = some (metricKey, tag) ∧
          c.registeredCollector? metricKey = some (p.collector, x) := by
  have admitted : AdmitsAlong (new "controller" ⟨"default", "web", "deployment"⟩ default .default,
      []) replacement := by decide +kernel
  have consistent := consistent_foldl_pass "controller" ⟨"default", "web", "deployment"⟩ default
    .default admitted
  refine ⟨by decide +kernel, by decide +kernel, by decide +kernel, consistent.2.1 _ ?_,
    consistent.2.2 _ _ ?_⟩
  · decide +kernel
  · decide +kernel

end Controller

end PredictiveScaling
