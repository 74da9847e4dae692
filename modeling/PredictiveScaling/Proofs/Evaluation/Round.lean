import PredictiveScaling.Proofs.Evaluation.Stage

/-!
# What happens to a round

What each part of a round does to the stage. Forecasts come in one by one; the last one
sets the goal, unless the visit to the predictors is still under way. Everything that is
done for a round puts it into its next state and leaves the other rounds alone.
-/
namespace PredictiveScaling

namespace Stage

variable {s : Stage} {id : Nat} {e : Evaluation}

@[simp] theorem put_put (s : Stage) (id : Nat) (e e' : Evaluation) :
    (s.put id e).put id e' = s.put id e' := by
  simp only [put, Arena.modify, List.modify_modify_eq]
  rfl

theorem put_self (h : s.evaluations.get? id = some e) : s.put id e = s := by
  have hitems : s.evaluations.items.modify id (fun _ => e) = s.evaluations.items := by
    apply List.ext_getElem?
    intro i
    rw [List.getElem?_modify]
    split
    · next hi =>
      subst hi
      rw [Arena.get?] at h
      rw [h]
      rfl
    · exact id_map _
  simp only [put, Arena.modify, hitems]

end Stage

namespace Evaluation

/-- All forecasts are in: a goal is set, or the round ends without one. -/
def withGoal (e : Evaluation) (goal : Option Goal) : Evaluation :=
  match goal with
  | some goal => { e with phase := .reading goal }
  | none => { e with phase := .ended ⟨e.results.length, none, none⟩ }

/-- A forecast is done with, with or without counts. -/
def finish (e : Evaluation) (i : Nat) (key : String) (counts : Option (List Int32)) :
    Evaluation :=
  { e.setPrediction i .done with
    results := e.results ++ (counts.map fun counts => ⟨key, counts⟩).toList }

/-- The attempt to reach the goal is over. -/
def conclude (e : Evaluation) (goal : Goal) (action : Option ScaleAction) : Evaluation :=
  { e with phase := .ended ⟨e.results.length, some goal.target, action⟩ }

end Evaluation

namespace Stage

variable {s : Stage} {e : Evaluation}

/-- A round after all its forecasts are in: its goal is set with the metrics on the stage. -/
def aimed (s : Stage) (e : Evaluation) : Evaluation :=
  e.withGoal (Goal.ofResults? s.scaler.config s.installed.metrics e.results)

/-- A round with its goal set, if nothing else is left to do. -/
def settled (s : Stage) (e : Evaluation) : Evaluation := if e.isComplete then s.aimed e else e

theorem aimed_of_results_eq_nil (h : e.results = []) :
    s.aimed e = { e with phase := .ended ⟨0, none, none⟩ } := by
  have hgoal : Goal.ofResults? s.scaler.config s.installed.metrics e.results = none := by
    rw [h]
    rfl
  rw [aimed, hgoal, Evaluation.withGoal, h]
  rfl

/-- A round to which a forecast has come, or for which it cannot be had. -/
def received (s : Stage) (e : Evaluation) (i : Nat) (p : Prediction) (forecast : Option Forecast) :
    Evaluation :=
  match forecast with
  | none => s.settled (e.finish i p.key none)
  | some f =>
    if s.scaler.config.baseStrategy.readsCurrent then e.setPrediction i (.counting f)
    else s.settled (e.finish i p.key (some (Scaler.modelCounts s.scaler.config f 0 p.target)))

/-- A round with a forecast for which the current count was read, or could not be. -/
def counted (s : Stage) (e : Evaluation) (i : Nat) (p : Prediction) (forecast : Forecast)
    (count : Except SourceError Int32) : Evaluation :=
  s.settled (e.finish i p.key
    (count.toOption.map fun n => Scaler.modelCounts s.scaler.config forecast n p.target))

end Stage

namespace Controller

variable {c : Controller} {id : Nat} {e : Evaluation}

/-! ## Loops -/

@[simp] theorem stage_awaitEvaluationTick (c : Controller) (id : Nat) (l : EvaluationLoop) :
    (c.awaitEvaluationTick id l).stage = c.stage := by
  rw [awaitEvaluationTick]
  rw [stage_call_of_set?_eq_none _ rfl]
  split <;> simp

@[simp] theorem stage_resumeOwner (c : Controller) (id : Nat) (owner : Option Nat) :
    (c.resumeOwner id owner).stage = c.stage := by
  simp only [resumeOwner]
  split
  · rfl
  · split
    · split
      · rw [stage_awaitEvaluationTick]
      · rfl
    · rfl

@[simp] theorem stage_startEvaluationLoop (c : Controller) (id : Nat) (l : EvaluationLoop) :
    (c.startEvaluationLoop id l).stage = c.stage := by
  rw [startEvaluationLoop]
  split <;> simp

@[simp] theorem stage_endEvaluation (c : Controller) (id : Nat) (e : Evaluation)
    (report : EvaluationReport) :
    (c.endEvaluation id e report).stage = c.stage.put id { e with phase := .ended report } := by
  rw [endEvaluation]
  rw [stage_resumeOwner, stage_setEvaluation]

/-! ## The goal -/

@[simp] theorem stage_showBuffers (c : Controller) : c.showBuffers.stage = c.stage := by
  rw [showBuffers]
  generalize c.store.collectors.toList = l
  induction l generalizing c with
  | nil => rfl
  | cons x l ih => rw [List.foldl_cons, ih, stage_count]

@[simp] theorem stage_setGoal (c : Controller) (id : Nat) (e : Evaluation) :
    (c.setGoal id e).stage = c.stage.put id (c.stage.aimed e) := by
  rw [setGoal]
  split
  · next hempty =>
    rw [stage_endEvaluation, Stage.aimed_of_results_eq_nil (List.isEmpty_iff.1 hempty)]
    split <;> simp
  · dsimp only
    split
    · next hgoal =>
      have hgoal : Goal.ofResults? c.scaler.config c.store.metrics e.results = none := hgoal
      rw [stage_endEvaluation, stage_reportHealthy, ← Evaluation.withGoal, ← hgoal]
      rfl
    · next goal hgoal =>
      have hgoal : Goal.ofResults? c.scaler.config c.store.metrics e.results = some goal := hgoal
      rw [stage_call_of_set?_eq_none _ rfl, stage_setEvaluation, stage_reportHealthy,
        ← Evaluation.withGoal, ← hgoal]
      rfl

theorem stage_settle (h : c.evaluations.get? id = some e) :
    (c.settle id).stage = c.stage.put id (c.stage.settled e) := by
  rw [settle, Stage.settled]
  rw [h]
  dsimp only
  split
  · rw [stage_setGoal]
  · rw [Stage.put_self h]

@[simp] theorem stage_endAttempt (c : Controller) (id : Nat) (e : Evaluation) (goal : Goal)
    (result : Except ScaleError ScaleAction) :
    (c.endAttempt id e goal result).stage = c.stage.put id (e.conclude goal result.toOption) := by
  simp only [endAttempt]
  cases result with
  | ok action =>
    dsimp only
    rw [stage_endEvaluation, stage_reportHealthy, stage_call_of_set?_eq_none _ rfl, stage_count]
    rfl
  | error error =>
    dsimp only
    rw [stage_endEvaluation, stage_reportDegraded]
    rfl

theorem stage_readGoalCount_error (c : Controller) (id : Nat) (e : Evaluation) (goal : Goal)
    (cause : SourceError) :
    (c.readGoalCount id e goal (.error cause)).stage = c.stage.put id (e.conclude goal none) := by
  rw [readGoalCount, stage_endAttempt]
  rfl

/-- With the current count the scaler decides; it may decide to set nothing. -/
theorem stage_readGoalCount_of_settled {goal : Goal} {current : Int32} {scaler : Scaler}
    {result : Except ScaleError ScaleAction}
    (h : c.scaler.decide c.now.steady goal.scaleDown current goal.target =
      (scaler, .settled result)) :
    (c.readGoalCount id e goal (.ok current)).stage =
      { c.stage with scaler }.put id (e.conclude goal result.toOption) := by
  rw [readGoalCount]
  simp only [count, h, stage_endAttempt]
  rfl

theorem stage_readGoalCount_of_set {goal : Goal} {current n : Int32} {scaler : Scaler}
    {action : ScaleAction}
    (h : c.scaler.decide c.now.steady goal.scaleDown current goal.target =
      (scaler, .set n action)) :
    (c.readGoalCount id e goal (.ok current)).stage =
      { { c.stage with scaler }.put id { e with phase := .setting goal action } with
        sets := c.stage.sets ++ [(id, n)] } := by
  rw [readGoalCount]
  simp only [count, h, stage_call, stage_setEvaluation]
  rfl

theorem stage_endGoalSet (c : Controller) (id : Nat) (e : Evaluation) (goal : Goal)
    (action : ScaleAction) (result : Except SourceError Unit) :
    (c.endGoalSet id e goal action result).stage =
      c.stage.put id (e.conclude goal (result.toOption.map fun _ => action)) := by
  rw [endGoalSet, stage_endAttempt]
  cases result <;> rfl

/-! ## Forecasts -/

theorem get?_setEvaluation (h : c.evaluations.get? id = some e) (e' : Evaluation) :
    (c.setEvaluation id e').evaluations.get? id = some e' := by
  rw [setEvaluation]
  dsimp only
  rw [Arena.get?_modify_self, h]
  rfl

theorem stage_endPrediction (h : c.evaluations.get? id = some e) (i : Nat) (key : String)
    (counts : Option (List Int32)) :
    (c.endPrediction id i e key counts).stage =
      c.stage.put id (c.stage.settled (e.finish i key counts)) := by
  have hset : c.endPrediction id i e key counts =
      (c.setEvaluation id (e.finish i key counts)).settle id := by
    cases counts with
    | none => simp [endPrediction, Evaluation.finish, Evaluation.setPrediction]
    | some counts => rfl
  rw [hset, stage_settle (get?_setEvaluation h _), stage_setEvaluation, Stage.put_put]
  rfl

/-- What comes of beginning a forecast. -/
inductive Opening where
  /-- It is there, or it cannot be had. -/
  | brings (forecast : Option Forecast)
  /-- The model is asked. -/
  | asks (request : PredictRequest)

/-- What comes of beginning a forecast now. -/
def opening (c : Controller) (p : Prediction) : Opening :=
  match c.predictors.get? p.predictor with
  | none => .brings none
  | some predictor =>
    match predictor.model with
    | .seasonal params =>
      .brings ((params.predict? (c.buffer predictor.collector)).bind Except.toOption)
    | .remote r =>
      match r.predictRequest (c.buffer predictor.collector) with
      | .error _ => .brings none
      | .ok request => .asks request

/-- The forecast in an answer of a model, if there is one. -/
def answered (c : Controller) (p : Prediction) (request : PredictRequest)
    (reply : Except PredictError PredictReply) : Option Forecast :=
  match c.predictors.get? p.predictor with
  | some ⟨_, _, .remote r⟩ => (r.takeExchange request reply).1.toOption
  | _ => none

theorem stage_takeForecast (h : c.evaluations.get? id = some e) (i : Nat) (p : Prediction)
    (forecast : Except PredictError Forecast) :
    (c.takeForecast id i e p forecast).stage =
      c.stage.put id (c.stage.received e i p forecast.toOption) := by
  simp only [takeForecast]
  cases forecast with
  | error error =>
    exact stage_endPrediction (c := (c.count Telemetry.countPrediction).countFault error) h
      i p.key none
  | ok f =>
    dsimp only
    change (if c.scaler.config.baseStrategy.readsCurrent = true then _ else _ : Controller).stage =
      c.stage.put id (if c.scaler.config.baseStrategy.readsCurrent = true then _ else _)
    split
    · rw [stage_call_of_set?_eq_none _ rfl, stage_setEvaluation, stage_count]
    · exact stage_endPrediction (c := c.count Telemetry.countPrediction) h i p.key _

theorem stage_startPrediction (h : c.evaluations.get? id = some e) (i : Nat) (p : Prediction) :
    (c.startPrediction id i e p).stage =
      match c.opening p with
      | .brings forecast => c.stage.put id (c.stage.received e i p forecast)
      | .asks request => c.stage.put id (e.setPrediction i (.asking request)) := by
  rw [startPrediction, opening]
  cases c.predictors.get? p.predictor with
  | none => exact stage_endPrediction h i p.key none
  | some predictor =>
    dsimp only
    cases predictor.model with
    | seasonal params =>
      dsimp only
      cases params.predict? (c.buffer predictor.collector) with
      | none => exact stage_endPrediction h i p.key none
      | some forecast => exact stage_takeForecast h i p forecast
    | remote r =>
      dsimp only
      cases r.predictRequest (c.buffer predictor.collector) with
      | error error => exact stage_takeForecast h i p (.error error)
      | ok request =>
        dsimp only
        rw [stage_call_of_set?_eq_none _ rfl, stage_setEvaluation]

theorem stage_takeReply (h : c.evaluations.get? id = some e) (i : Nat) (p : Prediction)
    (request : PredictRequest) (reply : Except PredictError PredictReply) :
    (c.takeReply id i e p request reply).stage =
      c.stage.put id (c.stage.received e i p (c.answered p request reply)) := by
  rw [takeReply, answered]
  rcases c.predictors.get? p.predictor with _ | ⟨key, collector, params | r⟩
  · exact stage_endPrediction h i p.key none
  · exact stage_endPrediction h i p.key none
  · exact stage_takeForecast
      (c := c.putRemote p.predictor (r.takeExchange request reply).2 c.sockets) h i p _

theorem stage_readPredictionCount (h : c.evaluations.get? id = some e) (i : Nat) (p : Prediction)
    (forecast : Forecast) (count : Except SourceError Int32) :
    (c.readPredictionCount id i e p forecast count).stage =
      c.stage.put id (c.stage.counted e i p forecast count) := by
  simp only [readPredictionCount]
  cases count with
  | error cause => exact stage_endPrediction h i p.key none
  | ok current => exact stage_endPrediction h i p.key _

end Controller

end PredictiveScaling
