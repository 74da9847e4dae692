import PredictiveScaling.Clock
import PredictiveScaling.Evaluation.Goal
import PredictiveScaling.Remote.Dispatch

/-!
# Rounds of evaluation

In a round each predictor is visited: its forecast is asked for, and its training goes out
if it is due. When all forecasts are in, they set a goal and the scaler moves towards it.
A round has to wait for what others answer, and may be given up while it does.
-/
namespace PredictiveScaling

/-- What a round came to. -/
structure EvaluationReport where
  /-- How many predictors asked for counts. -/
  results : Nat
  target : Option Int32
  action : Option ScaleAction
deriving DecidableEq, Repr

/-- How far one forecast of a round has come. -/
inductive PredictionPhase where
  | pending
  /-- The model was asked. -/
  | asking (request : PredictRequest)
  /-- The forecast is there, and the current count is being read. -/
  | counting (forecast : Forecast)
  | done
deriving Repr

/-- One forecast of a round. -/
structure Prediction where
  key : String
  predictor : Nat
  /-- The target of the metric when the predictor was visited. -/
  target : Float
  phase : PredictionPhase
deriving Repr

def Prediction.isDone (p : Prediction) : Bool :=
  match p.phase with
  | .done => true
  | _ => false

inductive EvaluationPhase where
  /-- The training of a predictor is being sent, then the rest is visited. -/
  | dispatching (key : String) (predictor : Nat) (dispatch : Dispatch)
      (rest : List (String × Nat))
  /-- Waiting for forecasts. -/
  | joining
  /-- Reading the current count for the goal. -/
  | reading (goal : Goal)
  /-- Setting a count; if that succeeds the action was done. -/
  | setting (goal : Goal) (action : ScaleAction)
  | ended (report : EvaluationReport)
  /-- The round was given up. -/
  | abandoned
deriving Repr

structure Evaluation where
  /-- The loop that waits for it. -/
  owner : Option Nat
  /-- How many predictors were registered when it began. -/
  registered : Nat
  predictions : List Prediction
  /-- What has come in, in the order it came. -/
  results : List PredictorResult
  phase : EvaluationPhase
deriving Repr

namespace Evaluation

def start (owner : Option Nat) (registered : Nat) : Evaluation :=
  { owner, registered, predictions := [], results := [], phase := .joining }

def isAbandoned (e : Evaluation) : Bool :=
  match e.phase with
  | .abandoned => true
  | _ => false

/-- What it came to, if it has ended. -/
def report? (e : Evaluation) : Option EvaluationReport :=
  match e.phase with
  | .ended report => some report
  | _ => none

/-- Whether all that is left is the goal. -/
def isComplete (e : Evaluation) : Bool :=
  match e.phase with
  | .joining => e.predictions.all Prediction.isDone
  | _ => false

def setPrediction (e : Evaluation) (i : Nat) (phase : PredictionPhase) : Evaluation :=
  { e with predictions := e.predictions.modify i fun p => { p with phase } }

end Evaluation

/-! ## Loops -/

/-- How far an evaluation loop has come. -/
inductive EvaluationLoopPhase where
  | starting
  | waiting
  /-- This round has not ended. -/
  | evaluating (evaluation : Nat)
  | ended
deriving DecidableEq, Repr

/-- A loop that evaluates on every tick until the process shuts down. -/
structure EvaluationLoop where
  ticker : Ticker
  /-- Whether the process was told to shut down. -/
  signalled : Bool
  phase : EvaluationLoopPhase
deriving DecidableEq, Repr

namespace EvaluationLoop

def new (interval : Duration) : EvaluationLoop := ⟨.start interval 0, false, .starting⟩

def isAlive (l : EvaluationLoop) : Bool := l.phase ≠ .ended

end EvaluationLoop

end PredictiveScaling
