import PredictiveScaling.Config.Controller
import PredictiveScaling.Controller.Step

/-!
# Starting what is configured

The controller of a configured workload as it stands when the process has started: its
parts are registered with the health reports, its metrics are installed, and it evaluates
on every tick.
-/
namespace PredictiveScaling.Config

/-- Why a configured workload cannot be started. -/
inductive StartFault where
  /-- A model cannot be made from its attributes. -/
  | specs (error : ModelSpecsError)
  /-- A model cannot work. -/
  | model (fault : ModelFault)

def StartFault.message : StartFault → String
  | .specs e => e.message
  | .model fault => (PredictError.invalidModel fault).message

namespace WorkloadConfig

/-- Install metrics one after the other; how many predictors there are in all. -/
def installMetrics (collection : CollectionConfig) :
    List MetricConfig → Nat → Controller → Except StartFault (Nat × Controller)
  | [], n, c => .ok (n, c)
  | m :: ms, n, c =>
    match m.modelSpecs with
    | .error e => .error (.specs e)
    | .ok specs =>
      match c.install m.metric specs collection with
      | (.error fault, _) => .error (.model fault)
      | (.ok keys, c) => installMetrics collection ms (n + keys.length) c

/-- The controller of a workload when it starts, with the record of its start. -/
def start (w : WorkloadConfig) (instanceName : String) :
    Except StartFault (Journal.Record × Controller) := do
  let c := Controller.new instanceName w.workload w.scalerConfig w.evaluationConfig
  let c := { c with health := c.health.registerWorkload c.seconds w.workload }
  let (predictors, c) ← installMetrics w.collectionConfig w.metrics 0 c
  let (_, c) := c.spawnEvaluationLoop
  pure (Journal.workloadStarted instanceName w.workload.text w.metrics.length predictors, c)

end WorkloadConfig

end PredictiveScaling.Config
