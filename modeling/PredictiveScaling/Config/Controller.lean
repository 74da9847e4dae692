import PredictiveScaling.Config.Environment
import PredictiveScaling.Config.File
import PredictiveScaling.Metric
import PredictiveScaling.Model.Attributes
import PredictiveScaling.Scaling.Scaler
import PredictiveScaling.Schedule
import PredictiveScaling.Workload

/-!
# The controller's configuration

Which workloads are managed and how. Settings come from a JSON file and, on top of it,
from the environment; then they are read into records, and last each workload is checked
for settings that its loops could not run with.
-/
namespace PredictiveScaling.Config

/-! ## Records -/

structure ModelConfig where
  type : String
  needTrain : Bool
  updateIntervalSecs : Nat
  attributes : List (String × String)
deriving Repr

structure ScaleDownConfig where
  threshold : Float
  durationSecs : Nat
deriving Repr

structure MetricConfig where
  name : String
  unit : String
  query : String
  target : Float
  weight : Int32
  scaleDown : ScaleDownConfig
  models : List ModelConfig
deriving Repr

structure WorkloadConfig where
  space : String
  name : String
  kind : String
  minReplicas : Int32
  maxReplicas : Int32
  sourceUrl : String
  collectIntervalSecs : Nat
  evaluateIntervalSecs : Nat
  predictTimeoutSecs : Nat
  maxSamples : Nat
  baseStrategy : BaseStrategy
  modelStrategy : ModelStrategy
  metrics : List MetricConfig
deriving Repr

structure ControllerConfig where
  instanceName : String
  apiPort : Nat
  workloads : List WorkloadConfig
deriving Repr

/-! ## Reading -/

namespace ModelConfig

def fieldNames : List String := ["type", "need_train", "update_interval_secs", "attributes"]

def read? (v : Value) : Option ModelConfig := do
  let f ← Fields.of? fieldNames v
  pure {
    type := ← f.required? "type" Value.string?
    needTrain := ← f.withDefault? "need_train" false Value.bool?
    updateIntervalSecs := ← f.withDefault? "update_interval_secs" 0 Value.nat?
    attributes := ← f.withDefault? "attributes" [] (Value.map? Value.string?) }

end ModelConfig

namespace ScaleDownConfig

def fieldNames : List String := ["threshold", "duration_secs"]

def read? (v : Value) : Option ScaleDownConfig := do
  let f ← Fields.of? fieldNames v
  pure {
    threshold := ← f.withDefault? "threshold" 0.0 Value.float?
    durationSecs := ← f.withDefault? "duration_secs" 0 Value.nat? }

end ScaleDownConfig

namespace MetricConfig

def fieldNames : List String :=
  ["name", "unit", "query", "target", "weight", "scale_down", "models"]

def read? (v : Value) : Option MetricConfig := do
  let f ← Fields.of? fieldNames v
  pure {
    name := ← f.required? "name" Value.string?
    unit := ← f.withDefault? "unit" "" Value.string?
    query := ← f.required? "query" Value.string?
    target := ← f.required? "target" Value.float?
    weight := ← f.withDefault? "weight" 100 Value.int32?
    scaleDown := ← f.withDefault? "scale_down" ⟨0.0, 0⟩ ScaleDownConfig.read?
    models := ← f.withDefault? "models" [] (Value.list? ModelConfig.read?) }

end MetricConfig

namespace WorkloadConfig

def fieldNames : List String :=
  ["namespace", "name", "kind", "min_replicas", "max_replicas", "metric_source_url",
    "collect_interval_secs", "evaluate_interval_secs", "predict_timeout_secs", "max_samples",
    "base_strategy", "model_strategy", "metrics"]

def read? (v : Value) : Option WorkloadConfig := do
  let f ← Fields.of? fieldNames v
  pure {
    space := ← f.withDefault? "namespace" "default" Value.string?
    name := ← f.required? "name" Value.string?
    kind := ← f.withDefault? "kind" "Deployment" Value.string?
    minReplicas := ← f.withDefault? "min_replicas" 1 Value.int32?
    maxReplicas := ← f.withDefault? "max_replicas" 10 Value.int32?
    sourceUrl := ← f.required? "metric_source_url" Value.string?
    collectIntervalSecs := ← f.withDefault? "collect_interval_secs" 10 Value.nat?
    evaluateIntervalSecs := ← f.withDefault? "evaluate_interval_secs" 30 Value.nat?
    predictTimeoutSecs := ← f.withDefault? "predict_timeout_secs" 30 Value.nat?
    maxSamples := ← f.withDefault? "max_samples" CollectionConfig.defaultMaxSamples Value.nat?
    baseStrategy := ←
      f.withDefault? "base_strategy" .steady (Value.choice? BaseStrategy.names)
    modelStrategy := ←
      f.withDefault? "model_strategy" .max (Value.choice? ModelStrategy.names)
    metrics := ← f.withDefault? "metrics" [] (Value.list? MetricConfig.read?) }

end WorkloadConfig

namespace ControllerConfig

def fieldNames : List String := ["instance_name", "api_port", "workloads"]

/-- The name of an instance without a host name. -/
def defaultInstanceName : String := "forecast-autoscaler"

def read? (hostName : Option String) (v : Value) : Option ControllerConfig := do
  let f ← Fields.of? fieldNames v
  pure {
    instanceName :=
      ← f.withDefault? "instance_name" (hostName.getD defaultInstanceName) Value.string?
    apiPort := ← f.withDefault? "api_port" 8080 (Value.boundedNat? 65535)
    workloads := ← f.withDefault? "workloads" [] (Value.list? WorkloadConfig.read?) }

end ControllerConfig

/-! ## Checking -/

/-- Settings that a workload's loops cannot run with. -/
inductive WorkloadFault where
  | notPositive (field : String)
  | invalidBounds (lower upper : Int32)
deriving DecidableEq, Repr

def WorkloadFault.message : WorkloadFault → String
  | .notPositive field => field ++ " must be positive"
  | .invalidBounds lower upper => s!"replica bounds {lower}..={upper} are invalid"

namespace WorkloadConfig

def workload (c : WorkloadConfig) : Workload := ⟨c.space, c.name, c.kind⟩

def validate (c : WorkloadConfig) : Except WorkloadFault Unit :=
  if c.collectIntervalSecs = 0 then .error (.notPositive "collect_interval_secs")
  else if c.evaluateIntervalSecs = 0 then .error (.notPositive "evaluate_interval_secs")
  else if c.predictTimeoutSecs = 0 then .error (.notPositive "predict_timeout_secs")
  else if 0 ≤ c.minReplicas ∧ c.minReplicas ≤ c.maxReplicas then .ok ()
  else .error (.invalidBounds c.minReplicas c.maxReplicas)

end WorkloadConfig

/-! ## Loading -/

/-- Why a configuration cannot be used. -/
inductive LoadError where
  /-- There are no settings to be had from the file. -/
  | unreadable
  /-- A setting is for a place in a list that cannot be. -/
  | outOfReach
  /-- The settings do not have the form of a configuration. -/
  | invalid
  | workload (workload : Workload) (fault : WorkloadFault)
deriving DecidableEq, Repr

def LoadError.message : LoadError → String
  | .unreadable => "failed to read configuration"
  | .outOfReach => "list index out of reach"
  | .invalid => "invalid configuration"
  | .workload w fault => "invalid workload " ++ w.text ++ ": " ++ fault.message

/-- Put settings into others. -/
def overlay (root : Value) (settings : List (String × Value)) : Except LoadError Value :=
  match root.overlay? settings with
  | some v => .ok v
  | none => .error .outOfReach

/-- The settings of a file, if one is asked for. -/
def fileSettings : Option SettingsFile → Except LoadError (List (String × Value))
  | none => .ok []
  | some f =>
    match f.settings? with
    | some l => .ok l
    | none => .error .unreadable

/-- The settings of a file, and of the environment on top of it. -/
def gather (file : Option SettingsFile) (bindings : List (String × String)) :
    Except LoadError Value := do
  let v ← overlay (.table []) (← fileSettings file)
  overlay v (Environment.settings bindings)

/-- The first fault of a workload. -/
def checkWorkloads : List WorkloadConfig → Except LoadError Unit
  | [] => .ok ()
  | w :: ws =>
    match w.validate with
    | .ok () => checkWorkloads ws
    | .error fault => .error (.workload w.workload fault)

/-- The configuration in a file and the environment. -/
def load (file : Option SettingsFile) (bindings : List (String × String)) :
    Except LoadError ControllerConfig := do
  let v ← gather file bindings
  match ControllerConfig.read? (bindings.lookup "HOSTNAME") v with
  | none => .error .invalid
  | some c =>
    checkWorkloads c.workloads
    pure c

/-! ## What a configuration describes -/

namespace WorkloadConfig

def scalerConfig (c : WorkloadConfig) : ScalerConfig :=
  { minReplicas := c.minReplicas, maxReplicas := c.maxReplicas, baseStrategy := c.baseStrategy
    modelStrategy := c.modelStrategy, peakStrategy := .selectMax }

def collectionConfig (c : WorkloadConfig) : CollectionConfig :=
  { CollectionConfig.default with
    interval := .ofSecs c.collectIntervalSecs, maxSamples := c.maxSamples }

def evaluationConfig (c : WorkloadConfig) : EvaluationConfig :=
  ⟨.ofSecs c.evaluateIntervalSecs, .ofSecs c.predictTimeoutSecs⟩

end WorkloadConfig

/-- A model of a metric that cannot be made from its attributes. -/
structure ModelSpecsError where
  metric : String
  model : String
  fault : ModelFault

def ModelSpecsError.message (e : ModelSpecsError) : String :=
  "metric '" ++ e.metric ++ "', model '" ++ e.model ++ "': " ++
    (PredictError.invalidModel e.fault).message

namespace MetricConfig

def metric (c : MetricConfig) : Metric :=
  { name := c.name, unit := c.unit, query := c.query, target := c.target, weight := c.weight
    scaleDown := ⟨c.scaleDown.threshold, .ofSecs c.scaleDown.durationSecs⟩ }

/-- All models of a metric, or the first one that cannot be made. -/
def modelSpecs (c : MetricConfig) : Except ModelSpecsError (List ModelSpec) :=
  c.models.mapM fun m =>
    (ModelSpec.ofAttributes m.type m.needTrain (.ofSecs m.updateIntervalSecs)
      (KeyMap.ofList m.attributes)).mapError fun fault => ⟨c.name, m.type, fault⟩

end MetricConfig

end PredictiveScaling.Config
