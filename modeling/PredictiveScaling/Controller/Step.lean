import PredictiveScaling.Controller.Evaluation
import PredictiveScaling.Controller.Install

/-!
# Steps of a controller

One event at a time is handled. An event that finds its loop or its round in another
phase than the one it is meant for does nothing, so events may come late or twice.
-/
namespace PredictiveScaling.Controller

/-- Handle an event of a collection loop in this phase. -/
def atCollection (c : Controller) (id : Nat) (phase : CollectionPhase)
    (f : CollectionLoop → Controller) : Controller :=
  match c.collectionLoops.get? id with
  | some l => if l.phase = phase then f l else c
  | none => c

/-- Handle an event of an evaluation loop. -/
def atEvaluationLoop (c : Controller) (id : Nat) (f : EvaluationLoop → Controller) : Controller :=
  match c.evaluationLoops.get? id with
  | some l => f l
  | none => c

/-- Handle an event of a round. -/
def atEvaluation (c : Controller) (id : Nat) (f : Evaluation → Controller) : Controller :=
  match c.evaluations.get? id with
  | some e => f e
  | none => c

/-- Handle an event of a forecast in a round that was not given up. -/
def atPrediction (c : Controller) (id i : Nat) (f : Evaluation → Prediction → Controller) :
    Controller :=
  c.atEvaluation id fun e =>
    match e.predictions[i]? with
    | some p => if e.isAbandoned then c else f e p
    | none => c

/-- What an event does. -/
def handle (c : Controller) : Event → Controller
  | .collectionStarts id => c.atCollection id .starting fun l => c.startCollection id l
  | .collectionDue id => c.atCollection id .waiting fun l => c.tickCollection id l
  | .collectionSignalled id =>
    c.atCollection id .waiting fun l => if l.signalled then c.endCollection id l else c
  | .queryEnds id answer => c.atCollection id .querying fun l => c.endQuery id l answer
  | .evaluationLoopStarts id =>
    c.atEvaluationLoop id fun l => if l.phase = .starting then c.startEvaluationLoop id l else c
  | .evaluationLoopDue id =>
    c.atEvaluationLoop id fun l => if l.phase = .waiting then c.tickEvaluationLoop id l else c
  | .evaluationLoopSignalled id =>
    c.atEvaluationLoop id fun l =>
      if l.signalled ∧ l.phase ≠ .starting then c.endEvaluationLoop id l else c
  | .predictionStarts id i => c.atPrediction id i fun e p =>
    match p.phase with
    | .pending => c.startPrediction id i e p
    | _ => c
  | .replyArrives id i reply => c.atPrediction id i fun e p =>
    match p.phase with
    | .asking request => c.takeReply id i e p request reply
    | _ => c
  | .predictionCount id i count => c.atPrediction id i fun e p =>
    match p.phase with
    | .counting forecast => c.readPredictionCount id i e p forecast count
    | _ => c
  | .dispatchEnds id result => c.atEvaluation id fun e =>
    match e.phase with
    | .dispatching key predictor d rest => c.resumeVisit id e key predictor d rest result
    | _ => c
  | .goalCount id count => c.atEvaluation id fun e =>
    match e.phase with
    | .reading goal => c.readGoalCount id e goal count
    | _ => c
  | .goalSet id result => c.atEvaluation id fun e =>
    match e.phase with
    | .setting goal action => c.endGoalSet id e goal action result
    | _ => c
  | .trainingEnds id round arrival => c.endTraining id round arrival

/-- Tell all loops that the process shuts down; whether any is alive. -/
def shutDown (c : Controller) : Bool × Controller :=
  let collections := c.aliveCollections
  let evaluations := (c.evaluationLoops.indexed.filter fun (_, l) => l.isAlive).map Prod.fst
  let c := collections.foldl signalCollection c
  (!(collections.isEmpty && evaluations.isEmpty), evaluations.foldl signalEvaluationLoop c)

/-- Do something with a controller at a moment, and take the calls that it makes. -/
def perform {α : Type} (c : Controller) (now : Moment) (f : Controller → α × Controller) :
    α × Controller × List Call :=
  let (a, c) := f { c with now, outbox := [] }
  (a, { c with outbox := [] }, c.outbox)

/-- The state after an event, and the calls that are made. -/
def step (c : Controller) (now : Moment) (e : Event) : Controller × List Call :=
  (c.perform now fun c => ((), c.handle e)).2

end PredictiveScaling.Controller
