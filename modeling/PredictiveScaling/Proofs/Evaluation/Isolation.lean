import PredictiveScaling.Proofs.Evaluation.Protection
import PredictiveScaling.Proofs.Evaluation.Report

/-!
# Failing predictors

A predictor fails in a tick if the visit finds no model or no metric for it, if its forecast
cannot be had in time, if the forecast cannot be turned into counts, or if its metric is gone
when all forecasts are in. A tick comes to the same target, the same action and the same sets
as one in which the predictors that fail are not there at all. The reported number of results
is the same too, except that a predictor is counted whose metric has gone only after its
counts came in.
-/
namespace PredictiveScaling

/-- The controller with some predictors taken out. -/
def Controller.without (c : Controller) (keys : List String) : Controller :=
  { c with store := { c.store with
      predictors := c.store.predictors.filterKeys fun key => key ∉ keys } }

namespace Surroundings

variable {u : Surroundings} {scaler : Scaler} {config : ScalerConfig} {F : List String}
  {predictors : List (String × Nat)}

/-- What a registered predictor comes to. -/
def resultOf? (u : Surroundings) (config : ScalerConfig) (x : String × Nat) :
    Option PredictorResult :=
  (u.found x.1).bind fun metric => u.result? config ⟨x.1, x.2, metric.target, .pending⟩

/-- A predictor without a model or a metric, without a forecast, or without a count where one
is needed. -/
def YieldsNothing (u : Surroundings) (config : ScalerConfig) (key : String) : Prop :=
  u.found key = none ∨ u.forecast key = none ∨
    (config.baseStrategy.readsCurrent = true ∧ (u.reading key).toOption = none)

instance (u : Surroundings) (config : ScalerConfig) (key : String) :
    Decidable (u.YieldsNothing config key) :=
  inferInstanceAs (Decidable (_ ∨ _ ∨ (_ ∧ _)))

/-- A predictor that yields nothing, or whose metric is gone in the end. -/
def Fails (u : Surroundings) (config : ScalerConfig) (key : String) : Prop :=
  u.YieldsNothing config key ∨ ((splitPredictorKey? key).map Prod.fst).bind u.installed = none

instance (u : Surroundings) (config : ScalerConfig) (key : String) :
    Decidable (u.Fails config key) :=
  inferInstanceAs (Decidable (_ ∨ _))

theorem results_eq_filterMap (u : Surroundings) (config : ScalerConfig)
    (predictors : List (String × Nat)) :
    u.results config predictors = predictors.filterMap (u.resultOf? config) := by
  rw [results, visited, List.filterMap_filterMap]
  refine List.filterMap_congr fun x _ => ?_
  rw [resultOf?, Option.bind_map]
  rfl

theorem YieldsNothing.resultOf?_eq_none {x : String × Nat} (h : u.YieldsNothing config x.1) :
    u.resultOf? config x = none := by
  cases found : u.found x.1 with
  | none => rw [resultOf?, found, Option.bind_none]
  | some metric =>
    have hcounts : u.counts? config ⟨x.1, x.2, metric.target, .pending⟩ = none := by
      rw [Answers.counts?]
      rcases h with h | h | ⟨reads, h⟩
      · cases h.symm.trans found
      · rw [h, Option.bind_none]
      · simp only [reads, if_true, h, Option.map_none, Option.bind_fun_none]
    rw [resultOf?, found, Option.bind_some, Answers.result?, hcounts, Option.map_none]

/-- What a predictor comes to that fails counts for nothing. -/
theorem Fails.not_counts {x : String × Nat} {r : PredictorResult} (h : u.Fails config x.1)
    (result : u.resultOf? config x = some r) : Goal.Counts u.installed r = false := by
  rcases h with h | h
  · cases h.resultOf?_eq_none.symm.trans result
  · obtain ⟨metric, _, result⟩ := Option.bind_eq_some_iff.1 result
    obtain ⟨counts, _, rfl⟩ := Option.map_eq_some_iff.1 result
    rw [Goal.Counts, Goal.metricKey?, h]
    rfl

/-- The predictors that are left come to the same goal. -/
theorem goal?_filter (fails : ∀ key ∈ F, u.Fails config key) :
    u.goal? config (predictors.filter fun x => x.1 ∉ F) = u.goal? config predictors := by
  have hcounts : (u.results config (predictors.filter fun x => x.1 ∉ F)).filter
      (Goal.Counts u.installed) =
        (u.results config predictors).filter (Goal.Counts u.installed) := by
    rw [results_eq_filterMap, results_eq_filterMap, List.filterMap_filter, List.filter_filterMap,
      List.filter_filterMap]
    refine List.filterMap_congr fun x _ => ?_
    by_cases hx : x.1 ∈ F
    · simp only [hx, not_true, decide_false, Bool.false_eq_true, if_false]
      cases hresult : u.resultOf? config x with
      | none => rfl
      | some r =>
        rw [Option.filter_some, (fails x.1 hx).not_counts hresult]
        rfl
    · simp only [hx, not_false_eq_true, decide_true, if_true]
  rw [goal?, goal?, ← Goal.ofFound?_filter, hcounts, Goal.ofFound?_filter]

/-- The results that are not missed among those that are left. -/
theorem length_results_filter (u : Surroundings) (config : ScalerConfig)
    (predictors : List (String × Nat)) (F : List String) :
    (u.results config predictors).length =
      (u.results config (predictors.filter fun x => x.1 ∉ F)).length +
        predictors.countP fun x => x.1 ∈ F ∧ (u.resultOf? config x).isSome := by
  rw [results_eq_filterMap, results_eq_filterMap, List.length_filterMap_eq_countP,
    List.length_filterMap_eq_countP,
    List.countP_eq_countP_filter_add _ _ fun x : String × Nat => decide (x.1 ∉ F)]
  congr 1
  rw [List.countP_filter]
  refine List.countP_congr fun x _ => ?_
  simp [and_comm]

/-- Predictors that fail change nothing but the number of results. -/
theorem outcome_filter (scaler : Scaler) (predictors : List (String × Nat))
    (fails : ∀ key ∈ F, u.Fails scaler.config key) :
    (u.outcome scaler predictors).2 =
        (u.outcome scaler (predictors.filter fun x => x.1 ∉ F)).2 ∧
      (u.outcome scaler predictors).1 =
        { (u.outcome scaler (predictors.filter fun x => x.1 ∉ F)).1 with
          results := (u.outcome scaler (predictors.filter fun x => x.1 ∉ F)).1.results +
            predictors.countP fun x => x.1 ∈ F ∧ (u.resultOf? scaler.config x).isSome } := by
  have hcount := u.length_results_filter scaler.config predictors F
  rw [outcome, outcome, goal?_filter fails]
  cases u.goal? scaler.config predictors with
  | none => exact ⟨rfl, by rw [hcount]⟩
  | some goal => exact ⟨rfl, by rw [hcount]⟩

end Surroundings

namespace Tick

variable {full rest : Tick} {u : Surroundings} {F : List String}

/-- How many of some predictors are late if they fail: their counts have come in. -/
def late (t : Tick) (u : Surroundings) (F : List String) : Nat :=
  t.start.store.predictors.toList.countP fun x =>
    x.1 ∈ F ∧ (u.resultOf? t.start.scaler.config x).isSome

/-- Both ticks have a report, and they differ by the late predictors only. -/
theorem report?_eq_without (without : rest.start = full.start.without F)
    (fails : ∀ key ∈ F, u.Fails full.start.scaler.config key)
    (around : u.Surround full) (around' : u.Surround rest)
    (complete : full.Complete) (complete' : rest.Complete) :
    ∃ report, rest.report? = some report ∧ full.issued = rest.issued ∧
      full.report? = some { report with results := report.results + full.late u F } := by
  obtain ⟨report, ended, houtcome⟩ := full.exists_report?_of_complete around complete
  obtain ⟨report', ended', houtcome'⟩ := rest.exists_report?_of_complete around' complete'
  have hscaler : rest.start.scaler = full.start.scaler := by rw [without]; rfl
  have hpredictors : rest.start.store.predictors.toList =
      full.start.store.predictors.toList.filter fun x => x.1 ∉ F := by rw [without]; rfl
  rw [hscaler, hpredictors] at houtcome'
  obtain ⟨hreport, hissued⟩ := Prod.ext_iff.1 houtcome
  obtain ⟨hreport', hissued'⟩ := Prod.ext_iff.1 houtcome'
  obtain ⟨sets, reports⟩ := Surroundings.outcome_filter full.start.scaler
    full.start.store.predictors.toList fails
  dsimp only at hreport hissued hreport' hissued'
  refine ⟨report', ended', ?_, ?_⟩
  · rw [hissued, hissued', sets]
  · rw [ended, hreport, hreport', reports]
    rfl

/-- A tick, and another one without some predictors that fail in it, each in the same
surroundings and up to its end: both have a report, with the same target and the same action,
and both set the same counts. The numbers of results differ by the late ones, which fail only
because their metric is gone in the end. -/
theorem isolates_failures (without : rest.start = full.start.without F)
    (fails : ∀ key ∈ F, u.Fails full.start.scaler.config key)
    (around : u.Surround full) (around' : u.Surround rest)
    (complete : full.Complete) (complete' : rest.Complete) :
    ∃ report report', full.report? = some report ∧ rest.report? = some report' ∧
      report.target = report'.target ∧ report.action = report'.action ∧
      full.issued = rest.issued ∧
      report.results = report'.results + full.late u F := by
  obtain ⟨report, ended', sets, ended⟩ :=
    report?_eq_without without fails around around' complete complete'
  exact ⟨_, report, ended, ended', rfl, rfl, sets, rfl⟩

/-- As long as nothing is installed or removed during the ticks, no predictor is late, and the
reports are the same altogether. -/
theorem report?_eq_of_undisturbed {w : Answers} {now : Nat}
    (without : rest.start = full.start.without F)
    (fails : ∀ key ∈ F, (w.within full.start now).YieldsNothing full.start.scaler.config key)
    (calm : full.Undisturbed) (calm' : rest.Undisturbed) (fit : w.Fit full) (fit' : w.Fit rest)
    (times : ∀ x ∈ full.course, (w.within full.start now).Times full.id x)
    (times' : ∀ x ∈ rest.course, (w.within full.start now).Times rest.id x)
    (complete : full.Complete) (complete' : rest.Complete) :
    full.report? = rest.report? ∧ full.issued = rest.issued := by
  have hwithin : w.within rest.start now = w.within full.start now := by rw [without]; rfl
  have around : (w.within full.start now).Surround full := surround_within calm fit times
  have around' : (w.within full.start now).Surround rest := by
    rw [← hwithin] at times' ⊢
    exact surround_within calm' fit' times'
  obtain ⟨report, ended', sets, ended⟩ := report?_eq_without without
    (fun key hkey => .inl (fails key hkey)) around around' complete complete'
  have hnone : full.late (w.within full.start now) F = 0 := by
    refine List.countP_eq_zero.2 fun x _ => ?_
    by_cases hF : x.1 ∈ F
    · simp [(fails x.1 hF).resultOf?_eq_none]
    · simp [hF]
  rw [hnone] at ended
  exact ⟨ended.trans ended'.symm, sets⟩

/-! ## Two ticks at a count of two -/

/-- Everything happens at once. -/
def atOnce (c : Controller) (xs : List Happening) : Tick :=
  ⟨c, none, ⟨0, 0⟩, xs.map fun x => (⟨0, 0⟩, x)⟩

/-- A forecast of the first round is made. -/
def forecastMade (i : Nat) : List Happening :=
  [.event (.predictionStarts 0 i), .event (.predictionCount 0 i (.ok 2))]

/-- The scaler moves towards the goal of the first round. -/
def goalReached : List Happening := [.event (.goalCount 0 (.ok 2)), .event (.goalSet 0 (.ok ()))]

/-- Forecasts are at hand, two replicas are there, and one metric is gone in the end. -/
def losing (c : Controller) (metricKey : String) : Surroundings :=
  { Answers.ofCount (forecastAtHand c) 2 with
    found := c.store.installed.metricFor?
    installed := (c.store.metrics.erase metricKey).find?
    now := 0 }

/-- Metrics with a model each, with enough samples for a forecast. -/
def withModels (names : List String) : Controller :=
  names.foldl (fun c name => withHistory c ⟨name, "", "q", 1.0, 100, .none⟩ [2, 1, 2, 1])
    (Controller.new "controller" ⟨"default", "web", "deployment"⟩
      ⟨1, 20, .steady, .max, .selectMax⟩ .default)

/-- The samples of the third metric are too few, the fourth one is not installed, and the
second one is removed during the tick. Without their predictors the tick comes to the same, but
the second predictor is not counted. -/
theorem isolates_failures_of_three :
    let c := withHistory (withModels ["cpu", "net"]) ⟨"memory", "", "q", 1.0, 100, .none⟩ [1, 2, 3]
    let c := (withHistory c ⟨"disk", "", "q", 1.0, 100, .none⟩ [2, 1, 2, 1])
    let c := (c.eraseFrom .metrics "disk$$q").2
    let F := ["net$$q$holt_winters", "memory$$q$holt_winters", "disk$$q$holt_winters"]
    let full := atOnce c (forecastMade 1 ++ [.event (.predictionStarts 0 2),
      .erase .metrics "net$$q"] ++ forecastMade 0 ++ goalReached)
    let rest := atOnce (c.without F) (forecastMade 0 ++ goalReached)
    ∃ report report', full.report? = some report ∧ rest.report? = some report' ∧
      report.target = some 4 ∧ report'.target = some 4 ∧ report.action = report'.action ∧
      full.issued = rest.issued ∧ report.results = report'.results + 1 := by
  intro c₁ c₂ c F full rest
  have without : rest.start = full.start.without F := rfl
  have fails : ∀ key ∈ F, (losing c "net$$q").Fails full.start.scaler.config key := by
    decide +kernel
  have around : (losing c "net$$q").Surround full := by decide +kernel
  have around' : (losing c "net$$q").Surround rest := by decide +kernel
  obtain ⟨report, report', ended, ended', target, action, sets, count⟩ :=
    isolates_failures without fails around around' (by decide +kernel) (by decide +kernel)
  have four : full.report?.map EvaluationReport.target = some (some 4) := by decide +kernel
  have late : full.late (losing c "net$$q") F = 1 := by decide +kernel
  rw [ended] at four
  have four : report.target = some 4 := Option.some.inj four
  refine ⟨report, report', ended, ended', four, ?_, action, sets, ?_⟩
  · rw [← target, four]
  · rw [count, late]

/-- A predictor that yields counts and then loses its metric is counted among the results of
the tick, although its counts are dropped. -/
theorem counts_lost_metric :
    let c := withModels ["cpu", "memory"]
    let F := ["memory$$q$holt_winters"]
    let full := atOnce c (forecastMade 1 ++ [.erase .metrics "memory$$q"] ++ forecastMade 0 ++
      goalReached)
    let rest := atOnce (c.without F) (forecastMade 0 ++ goalReached)
    let u := losing c "memory$$q"
    (∀ key ∈ F, u.Fails full.start.scaler.config key) ∧ u.Surround full ∧ u.Surround rest ∧
      full.Complete ∧ rest.Complete ∧
      full.report? = some ⟨2, some 4, some (.scaledUp 2 4)⟩ ∧
      rest.report? = some ⟨1, some 4, some (.scaledUp 2 4)⟩ := by
  decide +kernel

end Tick

end PredictiveScaling
