import PredictiveScaling.Controller.Training

/-!
# Evaluating

What happens to a round of evaluation. All predictors are visited in one go, except that
the visit waits while the request of a training is sent. A predictor that fails in one
way or another is left out; the round goes on with the others. The goal is set with the
metrics that are installed when all forecasts are in.
-/
namespace PredictiveScaling.Controller

/-! ## The loop that waits for a round -/

/-- Wait for the ticker, or for a signal if there is none yet. -/
def awaitEvaluationTick (c : Controller) (id : Nat) (l : EvaluationLoop) : Controller :=
  let c := c.setEvaluationLoop id { l with phase := .waiting }
  let c := if l.signalled then c.soon (.evaluationLoopSignalled id) else c
  c.call (.wake l.ticker.due (.evaluationLoopDue id))

/-- The loop goes on if it still waits for this round. -/
def resumeOwner (c : Controller) (id : Nat) (owner : Option Nat) : Controller :=
  match owner with
  | none => c
  | some loop =>
    match c.evaluationLoops.get? loop with
    | some l => if l.phase = .evaluating id then c.awaitEvaluationTick loop l else c
    | none => c

/-- A round ends. -/
def endEvaluation (c : Controller) (id : Nat) (e : Evaluation) (report : EvaluationReport) :
    Controller :=
  (c.setEvaluation id { e with phase := .ended report }).resumeOwner id e.owner

/-! ## The goal -/

/-- Show how many samples all collectors hold. -/
def showBuffers (c : Controller) : Controller :=
  c.store.collectors.toList.foldl (fun c (key, id) =>
    c.count fun t => t.setBuffered key (c.buffer id).size) c

/-- The text for a round without a forecast. -/
def noForecastMessage : String := "no predictor produced a forecast"

/-- All forecasts are in. -/
def setGoal (c : Controller) (id : Nat) (e : Evaluation) : Controller :=
  let component := schedulerComponent c.workload
  if e.results.isEmpty then
    let c := c.showBuffers
    let c := if 0 < e.registered then c.reportDegraded component noForecastMessage else c
    c.endEvaluation id e ⟨0, none, none⟩
  else
    let c := c.reportHealthy component
    match Goal.ofResults? c.scaler.config c.store.metrics e.results with
    | none => c.endEvaluation id e ⟨e.results.length, none, none⟩
    | some goal =>
      (c.setEvaluation id { e with phase := .reading goal }).call (.countForGoal id)

/-- Set the goal once nothing else is left to do. -/
def settle (c : Controller) (id : Nat) : Controller :=
  match c.evaluations.get? id with
  | some e => if e.isComplete then c.setGoal id e else c
  | none => c

/-- The attempt to reach the goal has ended. -/
def endAttempt (c : Controller) (id : Nat) (e : Evaluation) (goal : Goal)
    (result : Except ScaleError ScaleAction) : Controller :=
  let workload := c.workload.text
  let component := scalerComponent c.workload
  match result with
  | .ok action =>
    let c := c.count fun t => t.countAction workload action.label
    let c := c.call (.journal (Journal.decided c.instanceName workload goal.target action))
    (c.reportHealthy component).endEvaluation id e
      ⟨e.results.length, some goal.target, some action⟩
  | .error error =>
    (c.reportDegraded component error.message).endEvaluation id e
      ⟨e.results.length, some goal.target, none⟩

/-- The current count for the goal is known, or cannot be. -/
def readGoalCount (c : Controller) (id : Nat) (e : Evaluation) (goal : Goal)
    (count : Except SourceError Int32) : Controller :=
  match count with
  | .error cause => c.endAttempt id e goal (.error (.client cause))
  | .ok current =>
    let c := c.count fun t => t.setTarget c.workload.text goal.target
    let (scaler, decision) := c.scaler.decide c.now.steady goal.scaleDown current goal.target
    let c := { c with scaler }
    match decision with
    | .settled result => c.endAttempt id e goal result
    | .set n action =>
      (c.setEvaluation id { e with phase := .setting goal action }).call (.setCount id n)

/-- The count for the goal was set, or was not. -/
def endGoalSet (c : Controller) (id : Nat) (e : Evaluation) (goal : Goal) (action : ScaleAction)
    (result : Except SourceError Unit) : Controller :=
  c.endAttempt id e goal ((result.map fun () => action).mapError .client)

/-! ## Forecasts -/

/-- A forecast of the round is done with, with or without counts. -/
def endPrediction (c : Controller) (id i : Nat) (e : Evaluation) (key : String)
    (counts : Option (List Int32)) : Controller :=
  let e := e.setPrediction i .done
  let results := match counts with
    | some counts => e.results ++ [⟨key, counts⟩]
    | none => e.results
  (c.setEvaluation id { e with results }).settle id

/-- Turn a forecast into counts, or find out first what the current count is. -/
def takeForecast (c : Controller) (id i : Nat) (e : Evaluation) (p : Prediction)
    (forecast : Except PredictError Forecast) : Controller :=
  let c := c.count Telemetry.countPrediction
  match forecast with
  | .error error => (c.countFault error).endPrediction id i e p.key none
  | .ok f =>
    let config := c.scaler.config
    if config.baseStrategy.readsCurrent then
      (c.setEvaluation id (e.setPrediction i (.counting f))).call (.countForPrediction id i)
    else c.endPrediction id i e p.key (some (Scaler.modelCounts config f 0 p.target))

/-- Begin a forecast. -/
def startPrediction (c : Controller) (id i : Nat) (e : Evaluation) (p : Prediction) :
    Controller :=
  match c.predictors.get? p.predictor with
  | none => c.endPrediction id i e p.key none
  | some predictor =>
    let buffer := c.buffer predictor.collector
    match predictor.model with
    | .seasonal params =>
      match params.predict? buffer with
      | some forecast => c.takeForecast id i e p forecast
      | none => c.endPrediction id i e p.key none
    | .remote r =>
      match r.predictRequest buffer with
      | .error error => c.takeForecast id i e p (.error error)
      | .ok request =>
        (c.setEvaluation id (e.setPrediction i (.asking request))).call
          (.ask id i p.predictor request)

/-- The model has answered, or there is no answer. -/
def takeReply (c : Controller) (id i : Nat) (e : Evaluation) (p : Prediction)
    (request : PredictRequest) (reply : Except PredictError PredictReply) : Controller :=
  match c.predictors.get? p.predictor with
  | some ⟨_, _, .remote r⟩ =>
    let (forecast, r) := r.takeExchange request reply
    (c.putRemote p.predictor r c.sockets).takeForecast id i e p forecast
  | _ => c.endPrediction id i e p.key none

/-- The current count for a forecast is known, or cannot be. -/
def readPredictionCount (c : Controller) (id i : Nat) (e : Evaluation) (p : Prediction)
    (forecast : Forecast) (count : Except SourceError Int32) : Controller :=
  match count with
  | .error _ => c.endPrediction id i e p.key none
  | .ok current =>
    c.endPrediction id i e p.key
      (some (Scaler.modelCounts c.scaler.config forecast current p.target))

/-! ## Visiting -/

/-- Let a forecast of the round begin. -/
def spawnPrediction (c : Controller) (id : Nat) (key : String) (predictor : Nat)
    (target : Float) : Controller :=
  match c.evaluations.get? id with
  | none => c
  | some e =>
    let p : Prediction := { key, predictor, target, phase := .pending }
    (c.setEvaluation id { e with predictions := e.predictions ++ [p] }).soon
      (.predictionStarts id e.predictions.length)

/-- Wait until the request of a training went out. -/
def suspendVisit (c : Controller) (id : Nat) (key : String) (predictor : Nat) (d : Dispatch)
    (rest : List (String × Nat)) : Controller :=
  match c.evaluations.get? id with
  | none => c
  | some e =>
    (c.setEvaluation id { e with phase := .dispatching key predictor d rest }).call
      (.dispatch id predictor d.request)

/-- What a visit comes to at a predictor. -/
inductive Visited where
  /-- Its model or its metric is gone. -/
  | missing
  /-- No training of it is due. -/
  | spared
  | refused (error : PredictError)
  | trained
  /-- The request of a training has to be sent. -/
  | sending (d : Dispatch)

/-- Call for the training of a predictor if it is due. -/
def callTraining (c : Controller) (key : String) (predictor : Nat) (model : ModelSpec) :
    Visited × Controller :=
  if model.needTrain ∧ c.trainingDue key model.updateInterval then
    match c.beginTraining predictor with
    | (.error e, c) => (.refused e, c.countFault e)
    | (.ok none, c) => (.trained, c.recordTraining key predictor)
    | (.ok (some d), c) => (.sending d, c)
  else (.spared, c)

/-- Come to a predictor. One whose model or metric is gone is passed over. -/
def comeTo (c : Controller) (id : Nat) (key : String) (predictor : Nat) : Visited × Controller :=
  match c.store.resolve key with
  | .error _ => (.missing, c)
  | .ok (model, metric) =>
    (c.spawnPrediction id key predictor metric.target).callTraining key predictor model

/-- Visit predictors, up to the first one for which a request has to be sent. -/
def visit (c : Controller) (id : Nat) : List (String × Nat) → Controller
  | [] => c.settle id
  | (key, predictor) :: rest =>
    match c.comeTo id key predictor with
    | (.sending d, c) => c.suspendVisit id key predictor d rest
    | (_, c) => c.visit id rest

/-- The request of a training went out, or it failed to. -/
def resumed (c : Controller) (id : Nat) (e : Evaluation) (key : String) (predictor : Nat)
    (d : Dispatch) (result : Except PredictError Unit) : Controller :=
  let c := (c.setEvaluation id { e with phase := .joining }).endDispatch predictor d true result
  match result with
  | .ok () => c.recordTraining key predictor
  | .error error => c.countFault error

/-- The visit goes on after that. -/
def resumeVisit (c : Controller) (id : Nat) (e : Evaluation) (key : String) (predictor : Nat)
    (d : Dispatch) (rest : List (String × Nat)) (result : Except PredictError Unit) :
    Controller :=
  (c.resumed id e key predictor d result).visit id rest

/-! ## Beginning and giving up -/

/-- The predictors that can be asked for a forecast. -/
def readyCount (c : Controller) : Nat :=
  (c.store.predictors.toList.filter fun (_, id) =>
    ((c.predictors.get? id).map Predictor.isReady).getD false).length

/-- The number of the next round. -/
def nextEvaluation (c : Controller) : Nat := c.evaluations.size

/-- With a new round that has visited nobody yet. -/
def begun (c : Controller) (owner : Option Nat) : Controller :=
  { c.count fun t => t.setReady c.workload.text c.readyCount with
    evaluations := c.evaluations.push (.start owner c.store.predictors.toList.length) }

/-- Begin a round over the predictors that are registered now. -/
def beginEvaluation (c : Controller) (owner : Option Nat) : Controller :=
  (c.begun owner).visit c.nextEvaluation c.store.predictors.toList

/-- Give up a round. -/
def abandonEvaluation (c : Controller) (id : Nat) : Controller :=
  match c.evaluations.get? id with
  | none => c
  | some e =>
    let c := match e.phase with
      | .dispatching _ predictor d _ => c.abandonDispatch predictor d
      | _ => c
    c.setEvaluation id { e with phase := .abandoned }

/-! ## Loops -/

/-- Run for the first time. A ticker without a period breaks the loop. -/
def startEvaluationLoop (c : Controller) (id : Nat) (l : EvaluationLoop) : Controller :=
  if l.ticker.period.millis = 0 then c.setEvaluationLoop id { l with phase := .ended }
  else c.awaitEvaluationTick id { l with ticker := .start l.ticker.period c.now.timer }

/-- The ticker is due, and the loop turns to its next round. -/
def ticked (c : Controller) (id : Nat) (l : EvaluationLoop) : Controller :=
  c.setEvaluationLoop id
    { l with ticker := l.ticker.next c.now.timer, phase := .evaluating c.nextEvaluation }

def tickEvaluationLoop (c : Controller) (id : Nat) (l : EvaluationLoop) : Controller :=
  (c.ticked id l).beginEvaluation (some id)

/-- Take notice of a signal, also in the middle of a round. -/
def endEvaluationLoop (c : Controller) (id : Nat) (l : EvaluationLoop) : Controller :=
  let c := match l.phase with
    | .evaluating e => c.abandonEvaluation e
    | _ => c
  c.setEvaluationLoop id { l with phase := .ended }

/-- Tell a loop that the process shuts down. -/
def signalEvaluationLoop (c : Controller) (id : Nat) : Controller :=
  match c.evaluationLoops.get? id with
  | none => c
  | some l =>
    let c := c.setEvaluationLoop id { l with signalled := true }
    if l.phase = .starting then c else c.soon (.evaluationLoopSignalled id)

/-- Start a loop. -/
def spawnEvaluationLoop (c : Controller) : Nat × Controller :=
  let id := c.evaluationLoops.size
  (id, { c with
    evaluationLoops := c.evaluationLoops.push (.new c.evaluationConfig.interval) }.soon
      (.evaluationLoopStarts id))

end PredictiveScaling.Controller
