import PredictiveScaling.Proofs.Controller.Trainings
import PredictiveScaling.Proofs.Remote.Lifecycle

/-!
# Records of what is gone

What has been trained is recorded under its key, and a predictor with a record is not trained again
before the interval is over. Installing and removing take care of the records, but a round that
waits for a request to go out is told nothing. It records what it was sending, and trains what it
has still before it, under keys that other predictors may have been registered under meanwhile. That
is the only way for a record to outlive its predictor, or for a new one to pass for trained
(`Controller.faithfulAlong_iff`).
-/
namespace PredictiveScaling.Controller

variable {c : Controller} {key : String} {n : Nat} {r : TrainingRecord}

/-! ## Installing -/

theorem store_remove (c : Controller) (metricKey : String) :
    (c.remove metricKey).store = c.store.remove metricKey :=
  congrArg Inventory.store (c.inventory_remove metricKey)

theorem predictor?_remove (c : Controller) (metricKey : String) :
    (c.remove metricKey).inventory.predictor? = c.inventory.predictor? := by
  rw [inventory_remove]

/-- Once the way is clear a metric is put in with models of its own, whose predictors have been
made, or nothing is put in. -/
theorem install_cases (c : Controller) (metric : Metric) (specs : List ModelSpec)
    (config : CollectionConfig) :
    let c' := (c.install metric specs config).2
    c' = c.cleared metric.key ∨ ∃ collector loop models,
      c'.store = (c.cleared metric.key).store.install metric collector loop models ∧
        (∀ m ∈ models, m.key = metric.predictorKey m.spec.tag ∧
          (c'.inventory.predictor? m.predictor).isSome = true) ∧
        ∀ n p, (c.cleared metric.key).inventory.predictor? n = some p →
          c'.inventory.predictor? n = some p := by
  dsimp only
  rw [install, ← cleared]
  generalize c.cleared metric.key = c
  dsimp only
  split
  · exact .inl rfl
  · next made hmade =>
    dsimp only
    rw [inventory_signalIfAny]
    refine .inr ⟨c.collectors.size, c.collectionLoops.size, installedModels c.predictors.size made,
      congrArg Inventory.store (inventory_signalIfAny _ _), ?_,
      fun n p hn => predictor?_append hn _⟩
    intro m hm
    obtain ⟨i, p, hi, hkey, hpredictor⟩ := exists_of_mem_installedModels hm
    refine ⟨hkey.trans (of_mem_made hmade _ (List.mem_of_getElem? hi)).1, ?_⟩
    change (((c.predictors.append (made.map Prod.snd)).get? m.predictor).map _).isSome = true
    rw [hpredictor, Arena.get?_append_add, List.getElem?_map, hi]
    rfl

/-! ## Turns -/

/-- Predictors are made before they are registered with their metrics, and no round has a key
before it twice. -/
structure Orderly (c : Controller) : Prop where
  rooted : c.store.Rooted
  made : ∀ key n, c.store.predictors.find? key = some n →
    (c.inventory.predictor? n).isSome = true
  once : ∀ id e, c.evaluations.get? id = some e → (e.ahead.map Prod.fst).Nodup

theorem stage_stop (c : Controller) (metricKey : String) :
    (c.stop metricKey).2.stage = c.stage := by
  rw [stop]
  split
  · rfl
  · exact c.stage_signalCollection _

theorem stage_signalEvaluationLoop (c : Controller) (id : Nat) :
    (c.signalEvaluationLoop id).stage = c.stage := by
  rw [signalEvaluationLoop]
  split
  · rfl
  · dsimp only
    split
    · rfl
    · exact stage_soon _ _

theorem stage_shutDown (c : Controller) : c.shutDown.2.stage = c.stage :=
  (view_foldl stage_signalEvaluationLoop _ _).trans (view_foldl stage_signalCollection _ _)

/-- Whatever turn it is has one of the effects on the stage. -/
theorem effect_takes (c : Controller) (x : Turn) :
    ∃ happening, c.Effect happening (c.takes x).stage := by
  cases x with
  | install metric specs config => exact ⟨_, c.effect_undergo (.install metric specs config)⟩
  | remove metricKey => exact ⟨_, c.effect_undergo (.remove metricKey)⟩
  | stop metricKey => exact ⟨.evaluate, .of_stage_eq (c.stage_stop metricKey)⟩
  | shutDown => exact ⟨.evaluate, .of_stage_eq c.stage_shutDown⟩
  | evaluate => exact ⟨_, c.effect_undergo .evaluate⟩
  | event x => exact ⟨_, c.effect_undergo (.event x)⟩

/-- Rounds go on, or begin with the predictors that are registered. -/
theorem Orderly.once_takes (h : c.Orderly) (x : Turn) :
    ∀ id e, (c.takes x).evaluations.get? id = some e → (e.ahead.map Prod.fst).Nodup := by
  obtain ⟨happening, effect⟩ := c.effect_takes x
  exact effect.ahead (P := fun l => (l.map Prod.fst).Nodup)
    (fun sub nodup => nodup.sublist (sub.map Prod.fst)) c.store.predictors.nodup_keys h.once

/-- A turn in which nothing is installed or removed makes no predictors. -/
theorem predictor?_takes {x : Turn} (keeps : x.replaces? = none) :
    (c.takes x).inventory.predictor? = c.inventory.predictor? := by
  cases x with
  | install metric specs config => cases keeps
  | remove metricKey => cases keeps
  | stop metricKey => exact congrArg Inventory.predictor? (c.inventory_stop metricKey)
  | shutDown => exact congrArg Inventory.predictor? c.inventory_shutDown
  | evaluate =>
    obtain ⟨_, records, -⟩ := c.keeps_beginEvaluation none
    exact records.predictor?_eq
  | event x =>
    obtain ⟨_, records, -⟩ := c.keeps_handle x
    exact records.predictor?_eq

theorem Orderly.remove (h : c.Orderly) (metricKey : String) : (c.remove metricKey).Orderly := by
  refine ⟨?_, ?_, h.once_takes (.remove metricKey)⟩
  · rw [store_remove]
    exact h.rooted.remove metricKey
  · intro key n found
    rw [store_remove, Store.find?_predictors_remove] at found
    rw [predictor?_remove]
    split at found
    · cases found
    · exact h.made key n found

theorem Orderly.cleared (h : c.Orderly) (metricKey : String) : (c.cleared metricKey).Orderly := by
  rw [Controller.cleared]
  split
  · exact h.remove metricKey
  · exact h

theorem Orderly.takes (h : c.Orderly) (x : Turn) : (c.takes x).Orderly := by
  cases keeps : x.replaces? with
  | none =>
    have hstore := store_takes (c := c) keeps
    refine ⟨?_, ?_, h.once_takes x⟩
    · rw [hstore, Store.recordAll_eq]
      exact h.rooted
    · rw [hstore, Store.predictors_recordAll, predictor?_takes keeps]
      exact h.made
  | some key =>
    cases x with
    | remove metricKey => exact h.remove metricKey
    | install metric specs config =>
      have hcleared := h.cleared metric.key
      rcases c.install_cases metric specs config with
        same | ⟨collector, loop, models, hstore, own, kept⟩
      · rw [Controller.takes, same]
        exact hcleared
      · refine ⟨?_, ?_, h.once_takes _⟩
        · rw [Controller.takes, hstore]
          exact hcleared.rooted.install collector loop fun m mem => (own m mem).1
        · intro key n found
          rw [Controller.takes, hstore] at found
          rcases Store.find?_predictors_install found with ⟨m, mem, -, rfl⟩ | old
          · exact (own m mem).2
          · obtain ⟨p, hp⟩ := Option.isSome_iff_exists.1 (hcleared.made key n old)
            exact Option.isSome_iff_exists.2 ⟨p, kept n p hp⟩
    | _ => cases keeps

/-! ## Records -/

theorem Orderly.nodup_trained (h : c.Orderly) (x : Turn) : ((c.trained x).map Prod.fst).Nodup := by
  rcases c.trained_sublist x with sub | ⟨id, result, e, -, found, sub⟩
  · exact c.store.predictors.nodup_keys.sublist (sub.map Prod.fst)
  · exact (h.once id e found).sublist (sub.map Prod.fst)

theorem faithful_cleared (h : c.store.Faithful) (metricKey : String) :
    (c.cleared metricKey).store.Faithful := by
  rw [cleared]
  split
  · rw [store_remove]
    exact h.remove metricKey
  · exact h

/-- Records stay faithful in a turn if and only if all that is trained is registered. -/
theorem faithful_takes_iff (order : c.Orderly) (h : c.store.Faithful) (x : Turn) :
    (c.takes x).store.Faithful ↔
      ∀ p ∈ c.trained x, c.store.predictors.find? p.1 = some p.2 := by
  cases keeps : x.replaces? with
  | none =>
    rw [store_takes keeps]
    exact h.recordAll_iff (order.nodup_trained x)
  | some key =>
    cases x with
    | remove metricKey =>
      rw [takes, store_remove]
      exact iff_of_true (h.remove metricKey) (List.forall_mem_nil _)
    | install metric specs config =>
      refine iff_of_true ?_ (List.forall_mem_nil _)
      have hcleared := faithful_cleared h metric.key
      rw [takes]
      rcases c.install_cases metric specs config with
        same | ⟨collector, loop, models, hstore, own, -⟩
      · rw [same]
        exact hcleared
      · rw [hstore]
        exact hcleared.install (order.cleared metric.key).rooted
          (c.contains_metrics_cleared metric.key) collector loop fun m mem => (own m mem).1
    | _ => cases keeps

/-- A record comes from a training in this turn, or it was there before. -/
theorem of_find?_trainings_takes {x : Turn}
    (found : (c.takes x).store.trainings.find? key = some r) :
    (key, r.predictor) ∈ c.trained x ∨ c.store.trainings.find? key = some r := by
  cases keeps : x.replaces? with
  | none =>
    rw [store_takes keeps] at found
    exact Store.mem_or_of_find?_trainings_recordAll found
  | some replaced =>
    cases x with
    | remove metricKey =>
      rw [takes, store_remove] at found
      exact .inr (Store.find?_trainings_of_remove found)
    | install metric specs config =>
      have hcleared : (c.cleared metric.key).store.trainings.find? key = some r := by
        rw [takes] at found
        rcases c.install_cases metric specs config with same | ⟨_, _, _, hstore, -⟩
        · rwa [same] at found
        · rwa [hstore, Store.trainings_install] at found
      rw [cleared] at hcleared
      split at hcleared
      · rw [store_remove] at hcleared
        exact .inr (Store.find?_trainings_of_remove hcleared)
      · exact .inr hcleared
    | _ => cases keeps

/-! ## Turn after turn -/

/-- What is trained in a turn at a moment. -/
def trainedAt (c : Controller) (x : Moment × Turn) : List (String × Nat) :=
  ({ c with now := x.1, outbox := [] } : Controller).trained x.2

/-- What is trained in some turns. -/
def trainedAlong (c : Controller) : List (Moment × Turn) → List (String × Nat)
  | [] => []
  | x :: xs => c.trainedAt x ++ (c.turn x).1.trainedAlong xs

/-- All that is trained in some turns is registered when its training goes out. -/
def TrainsRegistered (c : Controller) : List (Moment × Turn) → Prop
  | [] => True
  | x :: xs => (∀ p ∈ c.trainedAt x, c.store.predictors.find? p.1 = some p.2) ∧
    (c.turn x).1.TrainsRegistered xs

/-- After each of some turns every record is that of the registered predictor. -/
def FaithfulAlong (c : Controller) : List (Moment × Turn) → Prop
  | [] => True
  | x :: xs => (c.turn x).1.store.Faithful ∧ (c.turn x).1.FaithfulAlong xs

instance decidableTrainsRegistered (c : Controller) :
    (xs : List (Moment × Turn)) → Decidable (c.TrainsRegistered xs)
  | [] => .isTrue trivial
  | x :: xs =>
    have := decidableTrainsRegistered (c.turn x).1 xs
    inferInstanceAs (Decidable (_ ∧ (c.turn x).1.TrainsRegistered xs))

theorem Orderly.turn (h : c.Orderly) (x : Moment × Turn) : (c.turn x).1.Orderly := by
  have begun : ({ c with now := x.1, outbox := [] } : Controller).Orderly :=
    ⟨h.rooted, h.made, h.once⟩
  have after := begun.takes x.2
  exact ⟨after.rooted, after.made, after.once⟩

theorem faithful_turn_iff (order : c.Orderly) (h : c.store.Faithful) (x : Moment × Turn) :
    (c.turn x).1.store.Faithful ↔
      ∀ p ∈ c.trainedAt x, c.store.predictors.find? p.1 = some p.2 :=
  faithful_takes_iff (c := { c with now := x.1, outbox := [] })
    ⟨order.rooted, order.made, order.once⟩ h x.2

theorem orderly_turns (h : c.Orderly) (xs : List (Moment × Turn)) : (c.turns xs).1.Orderly := by
  induction xs generalizing c with
  | nil => exact h
  | cons x xs ih => exact ih (h.turn x)

theorem faithful_turns (order : c.Orderly) (h : c.store.Faithful) {xs : List (Moment × Turn)}
    (registered : c.TrainsRegistered xs) : (c.turns xs).1.store.Faithful := by
  induction xs generalizing c with
  | nil => exact h
  | cons x xs ih =>
    exact ih (order.turn x) ((faithful_turn_iff order h x).2 registered.1) registered.2

theorem faithfulAlong_iff_of_orderly (order : c.Orderly) (h : c.store.Faithful)
    (xs : List (Moment × Turn)) : c.FaithfulAlong xs ↔ c.TrainsRegistered xs := by
  induction xs generalizing c with
  | nil => exact Iff.rfl
  | cons x xs ih =>
    rw [FaithfulAlong, TrainsRegistered, ← faithful_turn_iff order h x]
    exact and_congr_right fun faithful => ih (order.turn x) faithful

theorem of_find?_trainings_turns {xs : List (Moment × Turn)}
    (found : (c.turns xs).1.store.trainings.find? key = some r) :
    (key, r.predictor) ∈ c.trainedAlong xs ∨ c.store.trainings.find? key = some r := by
  induction xs generalizing c with
  | nil => exact .inr found
  | cons x xs ih =>
    rcases ih found with later | found
    · exact .inl (List.mem_append_right _ later)
    · exact (of_find?_trainings_takes (c := { c with now := x.1, outbox := [] }) found).imp_left
        (List.mem_append_left _)

theorem orderly_new (instanceName : String) (workload : Workload) (scaler : ScalerConfig)
    (evaluation : EvaluationConfig) : (new instanceName workload scaler evaluation).Orderly :=
  ⟨Store.rooted_empty, nofun, nofun⟩

/-- Whatever is installed, removed and evaluated, and whatever happens while rounds wait: after each
turn every record is that of the predictor registered under its key, if and only if each training
was one of the predictor registered when it went out. What is trained is registered, unless a round
has waited for a request and had it before it then. And if all that was trained has been
registered, a predictor is due from when it is made until it is trained itself. -/
theorem faithfulAlong_iff (instanceName : String) (workload : Workload) (scaler : ScalerConfig)
    (evaluation : EvaluationConfig) (xs : List (Moment × Turn)) :
    let start := new instanceName workload scaler evaluation
    let c := (start.turns xs).1
    (start.FaithfulAlong xs ↔ start.TrainsRegistered xs) ∧
      (∀ x, ∀ p ∈ c.trainedAt x, c.store.predictors.find? p.1 = some p.2 ∨
        ∃ id result e, x.2 = .event (.dispatchEnds id result) ∧
          c.evaluations.get? id = some e ∧ p ∈ e.ahead) ∧
      (start.TrainsRegistered xs → ∀ ys, c.TrainsRegistered ys → ∀ key n,
        c.predictors.get? n = none → (c.turns ys).1.store.predictors.find? key = some n →
          (key, n) ∉ c.trainedAlong ys →
            ∀ interval now, (c.turns ys).1.store.trainingDue key interval now = true) := by
  intro start c
  have order : start.Orderly := orderly_new instanceName workload scaler evaluation
  refine ⟨faithfulAlong_iff_of_orderly order Store.faithful_empty xs, ?_, ?_⟩
  · rintro x ⟨key, n⟩ mem
    rcases trained_sublist { c with now := x.1, outbox := [] } x.2 with
      sub | ⟨id, result, e, hx, found, sub⟩
    · exact .inl ((KeyMap.mem_entries_iff _ key n).1 (sub.subset mem))
    · exact .inr ⟨id, result, e, hx, found, sub.subset mem⟩
  · intro registered ys registered' key n absent found untrained interval now
    have order : c.Orderly := orderly_turns order xs
    have faithful : c.store.Faithful :=
      faithful_turns (orderly_new instanceName workload scaler evaluation) Store.faithful_empty
        registered
    have faithful' := faithful_turns order faithful registered'
    refine Store.trainingDue_of_find?_eq_none ?_ interval now
    by_contra recorded
    obtain ⟨r, hr⟩ := Option.ne_none_iff_exists'.1 recorded
    have own : r.predictor = n :=
      Option.some.inj ((faithful' key r hr).symm.trans found)
    rcases of_find?_trainings_turns hr with later | before
    · exact untrained (own ▸ later)
    · -- a record from before belongs to a predictor that was there
      have made := order.made key n (own ▸ faithful key r before)
      rw [inventory] at made
      simp only [absent, Option.map_none, Option.isSome_none, Bool.false_eq_true] at made

/-- A metric comes with a served model that is to be trained once in an hour. -/
def installServed : Moment × Turn :=
  (⟨0, 0⟩, .install ⟨"cpu", "", "q", 1.0, 100, .none⟩
    [⟨.remote RemotePredictor.oneSampleParams, true, ⟨3600000⟩⟩] .default)

/-- The request of the training that the first round waits for has gone out. -/
def requestSent : Moment × Turn := (⟨0, 0⟩, .event (.dispatchEnds 0 (.ok ())))

/-- A round waits for the request of the first training. -/
def sending : List (Moment × Turn) :=
  installServed :: [.event (.collectionStarts 0), .event (.collectionDue 0),
    .event (.queryEnds 0 (some (.ok [⟨1.0, 0⟩]))), .evaluate].map fun x => (⟨0, 0⟩, x)

/-- If the metric is replaced after the request has gone out, the new predictor is due. If it is
replaced before, the new predictor has the record of the old one, and is not due for an hour. -/
theorem faithfulAlong_iff_replaced :
    let start := new "controller" ⟨"default", "web", "deployment"⟩ default .default
    let key := "cpu$$q$remote"
    let sent := (start.turns (sending ++ [requestSent])).1
    let late := (start.turns (sending ++ [installServed, requestSent])).1
    (sent.store.trainings.find? key = some ⟨0, 0⟩ ∧
      (sent.turns [installServed]).1.store.predictors.find? key = some 1 ∧
      ∀ interval now, (sent.turns [installServed]).1.store.trainingDue key interval now = true) ∧
    (¬ start.FaithfulAlong (sending ++ [installServed, requestSent]) ∧
      late.store.predictors.find? key = some 1 ∧ late.store.trainings.find? key = some ⟨0, 0⟩ ∧
      late.store.trainingDue key ⟨3600000⟩ 3599999 = false) := by
  intro start key sent late
  have hsent := faithfulAlong_iff "controller" ⟨"default", "web", "deployment"⟩ default .default
    (sending ++ [requestSent])
  have hlate := faithfulAlong_iff "controller" ⟨"default", "web", "deployment"⟩ default .default
    (sending ++ [installServed, requestSent])
  have registered : start.TrainsRegistered (sending ++ [requestSent]) := by decide +kernel
  refine ⟨⟨by decide +kernel, by decide +kernel, ?_⟩, ?_, by decide +kernel, by decide +kernel,
    by decide +kernel⟩
  · exact hsent.2.2 registered [installServed] (by decide +kernel) key 1 (by decide +kernel)
      (by decide +kernel) (by decide +kernel)
  · rw [hlate.1]
    decide +kernel

end PredictiveScaling.Controller
