import PredictiveScaling.Proofs.Evaluation.Outcome

/-!
# Protection from scaling down

The settings that a tick hands to the scaler are the strictest among the metrics that have
a result. A metric all of whose predictors fail is passed over, and its settings with it:
the delay of the goal is as long as the metric's own only if some other metric with a
result asks for as much, and its threshold likewise.
-/
namespace PredictiveScaling.Tick

variable {t : Tick} {w : Answers} {x : Moment × Happening} {goal : Goal}

/-- The goal that the tick has set. -/
def goal? (t : Tick) : Option Goal := t.round?.bind Evaluation.goal?

/-- A metric is installed, and one of the round's predictors on it has not failed. -/
def HasResult (t : Tick) (w : Answers) (m : Metric) : Prop :=
  ∃ e, t.round? = some e ∧ ∃ p ∈ e.predictions, w.counts? t.start.scaler.config p ≠ none ∧
    ∃ k, (splitPredictorKey? p.key).map Prod.fst = some k ∧
      t.reached.1.store.metrics.find? k = some m

/-! ## The last step of a tick -/

theorem reached_snoc (t : Tick) (x : Moment × Happening) :
    (t.snoc x).reached = Controller.pass t.reached x := by
  have hbegun : (t.snoc x).begun = t.begun := rfl
  rw [reached, hbegun, snoc, List.foldl_append]
  rfl

theorem fit_of_fit_snoc (h : w.Fit (t.snoc x)) : w.Fit t := by
  have along : ∀ (xs : List (Moment × Happening)) (s : Controller × List Call),
      w.FitAlong t.id s (xs ++ [x]) → w.FitAlong t.id s xs := by
    intro xs
    induction xs with
    | nil => exact fun _ _ => trivial
    | cons y xs ih => exact fun s hs => ⟨hs.1, ih _ hs.2⟩
  exact along t.course t.begun h

/-- When a tick sets its goal, it is that of the results that have come in, with the metrics
that are installed. -/
theorem ofResults?_of_sets {e : Evaluation} (fit : w.Fit (t.snoc x)) (before : t.goal? = none)
    (round : (t.snoc x).round? = some e) (sets : (t.snoc x).goal? = some goal) :
    Goal.ofResults? t.start.scaler.config (t.snoc x).reached.1.store.metrics e.results =
      some goal := by
  obtain ⟨e₀, found, _⟩ := exists_follows (fit_of_fit_snoc fit)
  have hbefore : e₀.goal? = none := by rwa [goal?, found] at before
  have hafter : e.goal? = some goal := by rwa [goal?, round] at sets
  rw [round?, reached_snoc] at round
  obtain ⟨e', _, found', _, hnext⟩ := stays_or_advances (x := x) found
  obtain rfl : e' = e := Option.some.inj (found'.symm.trans round)
  rcases hnext with ⟨rfl, _⟩ | ⟨scaler, how⟩
  · rw [hbefore] at hafter
    cases hafter
  · have hinstalled := installed_pass (s := t.reached) how.inner
    have hgoal := how.ofResults?_of_goal hbefore hafter
    rw [← config_reached t, reached_snoc]
    have hmetrics : (Controller.pass t.reached x).1.store.metrics = t.reached.1.store.metrics :=
      congrArg Installed.metrics hinstalled
    rw [hmetrics]
    exact hgoal

/-! ## Metrics with a result -/

/-- Once all forecasts are in, the results are those of the predictors that have not failed. -/
theorem mem_results_iff {e : Evaluation} {config : ScalerConfig} {r : PredictorResult}
    (follows : e.Follows w config) (aimed : e.isAimed = true) :
    r ∈ e.results ↔ ∃ p ∈ e.predictions, w.result? config p = some r := by
  have hall : e.predictions.filter Prediction.isDone = e.predictions :=
    List.filter_eq_self.2 (follows.done_of_aimed aimed)
  rw [follows.results.mem_iff, hall, List.mem_filterMap]

theorem exists_hasResult_iff {e : Evaluation} (round : t.round? = some e)
    (follows : e.Follows w t.start.scaler.config) (aimed : e.isAimed = true)
    {P : Metric → Prop} :
    (∃ r ∈ e.results, ∃ k m, Goal.metricKey? r = some k ∧
        t.reached.1.store.metrics.find? k = some m ∧ P m) ↔ ∃ m, t.HasResult w m ∧ P m := by
  constructor
  · rintro ⟨r, hr, k, m, hkey, hm, hP⟩
    obtain ⟨p, hp, hresult⟩ := (mem_results_iff follows aimed).1 hr
    obtain ⟨counts, hcounts, rfl⟩ := Option.map_eq_some_iff.1 hresult
    exact ⟨m, ⟨e, round, p, hp, by simp [hcounts], k, hkey, hm⟩, hP⟩
  · rintro ⟨m, ⟨e', round', p, hp, hcounts, k, hkey, hm⟩, hP⟩
    obtain rfl : e = e' := Option.some.inj (round.symm.trans round')
    obtain ⟨counts, hcounts⟩ := Option.ne_none_iff_exists'.1 hcounts
    refine ⟨⟨p.key, counts⟩, (mem_results_iff follows aimed).2 ⟨p, hp, ?_⟩, k, m, hkey, hm, hP⟩
    rw [Answers.result?, hcounts, Option.map_some]

theorem isAimed_of_goal? {e : Evaluation} (h : e.goal? = some goal) : e.isAimed = true := by
  rw [Evaluation.goal?] at h
  rw [Evaluation.isAimed]
  cases hphase : e.phase <;> simp [hphase] at h ⊢

/-- The settings that a tick hands to the scaler are at least as strict as those of an
installed metric exactly where that metric asks for nothing, or where one of the metrics
with a result asks for as much. So they may be weaker than those of a metric whose predictors
have failed. -/
theorem protects_iff (fit : w.Fit (t.snoc x)) (before : t.goal? = none)
    (sets : (t.snoc x).goal? = some goal) :
    ∀ k m, (t.snoc x).reached.1.store.metrics.find? k = some m →
      (m.scaleDown.duration ≤ goal.scaleDown.duration ↔
        m.scaleDown.duration ≤ .zero ∨ ∃ m', (t.snoc x).HasResult w m' ∧
          m.scaleDown.duration ≤ m'.scaleDown.duration) ∧
      (ScaleDown.Meets goal.scaleDown.threshold m.scaleDown.threshold ↔
        ScaleDown.Meets 0.0 m.scaleDown.threshold ∨ ∃ m', (t.snoc x).HasResult w m' ∧
          ScaleDown.Meets m'.scaleDown.threshold m.scaleDown.threshold) := by
  intro k m _
  obtain ⟨e, round, follows⟩ := exists_follows fit
  have hgoal := ofResults?_of_sets fit before round sets
  have aimed : e.isAimed = true := isAimed_of_goal? (by rwa [goal?, round] at sets)
  constructor
  · rw [Goal.le_duration_iff hgoal, exists_hasResult_iff round follows aimed]
  · rw [Goal.meets_threshold_iff hgoal, exists_hasResult_iff round follows aimed]

/-! ## A metric that is passed over -/

/-- Smoothing over seasons of two samples. -/
def pairSmoothing : ModelSpec :=
  { kind := .seasonal ⟨2, 4, 2, 0.5, 0.5, 0.5⟩, needTrain := false, updateInterval := .zero }

/-- The controller with one more metric, some history and a model on it. -/
def withHistory (c : Controller) (m : Metric) (history : List Float) : Controller :=
  let (collector, c) := c.makeCollector m 0
  ((c.appendTo collector (history.map fun x => ⟨x, 0⟩)).place m collector (some pairSmoothing)).2

/-- The forecasts that predictors have at hand. -/
def forecastAtHand (c : Controller) (key : String) : Option Forecast :=
  (c.store.predictors.find? key).bind fun id =>
    match c.opening ⟨key, id, 0.0, .pending⟩ with
    | .brings forecast => forecast
    | .asks _ => none

/-- Two metrics; the second one asks for a delay of an hour, and three samples are too few
for a forecast. -/
def shortOfMemory : Controller :=
  let c := Controller.new "controller" ⟨"default", "web", "deployment"⟩
    ⟨1, 20, .underThreshold, .max, .selectMax⟩ .default
  let c := withHistory c ⟨"cpu", "", "q", 1.0, 100, .none⟩ [1, 2, 3, 4]
  withHistory c ⟨"memory", "", "q", 1.0, 100, ⟨0.0, .ofSecs 3600⟩⟩ [1, 2, 3]

/-- The forecast on the second metric is begun, and fails. -/
def memoryFails : Tick :=
  ⟨shortOfMemory, none, ⟨0, 0⟩, [(⟨0, 0⟩, .event (.predictionStarts 0 1))]⟩

/-- With the forecast on the first metric the goal is set without any delay, although the
second metric asks for one of an hour: no metric with a result asks for as much. -/
theorem protects_iff_when_memory_fails :
    let t := memoryFails
    let x : Moment × Happening := (⟨0, 0⟩, .event (.predictionStarts 0 0))
    let w := Answers.ofCount (forecastAtHand shortOfMemory) 10
    w.Fit (t.snoc x) ∧ t.goal? = none ∧ ∃ goal m, (t.snoc x).goal? = some goal ∧
      (t.snoc x).reached.1.store.metrics.find? "memory$$q" = some m ∧
      goal.scaleDown.duration = .zero ∧ m.scaleDown.duration = .ofSecs 3600 ∧
      ¬ ∃ m', (t.snoc x).HasResult w m' ∧ m.scaleDown.duration ≤ m'.scaleDown.duration := by
  intro t x w
  have fit : w.Fit (t.snoc x) := by decide +kernel
  have before : t.goal? = none := Option.isNone_iff_eq_none.1 (by decide +kernel)
  have sets : (t.snoc x).goal?.map (fun g => g.scaleDown.duration) = some .zero := by
    decide +kernel
  have installed : ((t.snoc x).reached.1.store.metrics.find? "memory$$q").map
      (fun m => m.scaleDown.duration) = some (.ofSecs 3600) := by decide +kernel
  obtain ⟨goal, hgoal, hzero⟩ := Option.map_eq_some_iff.1 sets
  obtain ⟨m, hm, hhour⟩ := Option.map_eq_some_iff.1 installed
  refine ⟨fit, before, goal, m, hgoal, hm, hzero, hhour, fun hresult => ?_⟩
  have hle := (protects_iff fit before hgoal "memory$$q" m hm).1.2 (.inr hresult)
  rw [hzero, hhour] at hle
  exact absurd hle (by decide)

end PredictiveScaling.Tick
