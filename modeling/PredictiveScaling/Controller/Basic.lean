import PredictiveScaling.Collector
import PredictiveScaling.Controller.Event
import PredictiveScaling.Health
import PredictiveScaling.Predictor
import PredictiveScaling.Store
import PredictiveScaling.Telemetry

/-!
# Controllers

The controller of one workload with everything that lives in it. What an event does is a
function on controllers; the calls it makes are gathered in the outbox, in their order.
-/
namespace PredictiveScaling

structure Controller where
  instanceName : String
  workload : Workload
  evaluationConfig : EvaluationConfig
  /-- When the current event happens. -/
  now : Moment
  store : Store
  /-- All collectors that were ever made, and so on. -/
  collectors : Arena Collector
  predictors : Arena Predictor
  collectionLoops : Arena CollectionLoop
  evaluationLoops : Arena EvaluationLoop
  evaluations : Arena Evaluation
  awaited : List AwaitedRound
  scaler : Scaler
  health : HealthRegistry
  telemetry : Telemetry
  sockets : Sockets
  outbox : List Call

namespace Controller

def new (instanceName : String) (workload : Workload) (scaler : ScalerConfig)
    (evaluation : EvaluationConfig) : Controller :=
  { instanceName, workload, evaluationConfig := evaluation, now := ⟨0, 0⟩, store := .empty
    collectors := .empty, predictors := .empty, collectionLoops := .empty
    evaluationLoops := .empty, evaluations := .empty, awaited := [], scaler := .new scaler
    health := .empty, telemetry := .empty, sockets := .empty, outbox := [] }

/-- Make a call. -/
def call (c : Controller) (x : Call) : Controller := { c with outbox := c.outbox ++ [x] }

/-- Let something happen as soon as possible. -/
def soon (c : Controller) (e : Event) : Controller := c.call (.wake c.now.timer e)

/-! ## Access -/

def buffer (c : Controller) (collector : Nat) : Buffer :=
  ((c.collectors.get? collector).map (·.buffer)).getD (.empty 0)

def setCollectionLoop (c : Controller) (id : Nat) (l : CollectionLoop) : Controller :=
  { c with collectionLoops := c.collectionLoops.modify id fun _ => l }

def setEvaluationLoop (c : Controller) (id : Nat) (l : EvaluationLoop) : Controller :=
  { c with evaluationLoops := c.evaluationLoops.modify id fun _ => l }

def setEvaluation (c : Controller) (id : Nat) (e : Evaluation) : Controller :=
  { c with evaluations := c.evaluations.modify id fun _ => e }

/-- The predictor that is registered under a key. -/
def registeredPredictor? (c : Controller) (key : String) : Option (Nat × Predictor) := do
  let id ← c.store.predictors.find? key
  let p ← c.predictors.get? id
  pure (id, p)

/-- The collector that is registered under a key. -/
def registeredCollector? (c : Controller) (key : String) : Option (Nat × Collector) := do
  let id ← c.store.collectors.find? key
  let x ← c.collectors.get? id
  pure (id, x)

/-! ## Reporting -/

/-- The time of health reports, in seconds. -/
def seconds (c : Controller) : Int64 := Int64.ofNat (c.now.timer / 1000)

def reportHealthy (c : Controller) (component : String) : Controller :=
  { c with health := c.health.setHealthy c.seconds component }

def reportDegraded (c : Controller) (component message : String) : Controller :=
  { c with health := c.health.setDegraded c.seconds component message }

def forgetHealth (c : Controller) (component : String) : Controller :=
  { c with health := c.health.unregister component }

def count (c : Controller) (f : Telemetry → Telemetry) : Controller :=
  { c with telemetry := f c.telemetry }

/-- A predictor has failed. -/
def countFault (c : Controller) (e : PredictError) : Controller :=
  c.count fun t => t.countPredictionError e.isTransient

end Controller

end PredictiveScaling
