import PredictiveScaling.Fault
import PredictiveScaling.KeyMap
import PredictiveScaling.Metric
import PredictiveScaling.Model

/-!
# The store of a workload

What is installed for a workload, in six maps: under metric keys the metrics, their
collectors and the loops that fill them, under predictor keys the models, their predictors
and the last training. Collectors, predictors and loops are named by numbers, since what
is installed anew under an old key is not what was there before.
-/
namespace PredictiveScaling

/-- A training that went out. -/
structure TrainingRecord where
  /-- When, on the steady clock. -/
  time : Nat
  /-- The predictor that was trained. -/
  predictor : Nat
deriving DecidableEq, Repr

structure Store where
  /-- The loops that can be told to stop. -/
  stops : KeyMap String Nat
  metrics : KeyMap String Metric
  collectors : KeyMap String Nat
  models : KeyMap String ModelSpec
  predictors : KeyMap String Nat
  trainings : KeyMap String TrainingRecord

/-- The maps of a store. -/
inductive StorePart where
  | stops
  | metrics
  | collectors
  | models
  | predictors
  | trainings
deriving DecidableEq, Repr

/-- A model that goes with a metric, under its predictor key. -/
structure InstalledModel where
  key : String
  spec : ModelSpec
  predictor : Nat

namespace Store

def empty : Store :=
  { stops := .empty, metrics := .empty, collectors := .empty
    models := .empty, predictors := .empty, trainings := .empty }

instance : Inhabited Store := ⟨empty⟩

/-- The model and the metric that a predictor key depends on. -/
def resolve (s : Store) (key : String) : Except SyncFault (ModelSpec × Metric) :=
  match s.models.find? key with
  | none => .error (.noModel key)
  | some model =>
    match splitPredictorKey? key with
    | none => .error (.malformedKey key)
    | some (metricKey, _) =>
      match s.metrics.find? metricKey with
      | none => .error (.noMetric metricKey)
      | some metric => .ok (model, metric)

/-- Whether a predictor key belongs to a metric. -/
def belongsTo (metricKey key : String) : Bool :=
  (splitPredictorKey? key).map Prod.fst == some metricKey

/-- Drop a predictor with its model and its last training. -/
def removePredictor (s : Store) (key : String) : Store :=
  { s with
    predictors := s.predictors.erase key
    models := s.models.erase key
    trainings := s.trainings.erase key }

/-- Drop a metric and all predictors on it. -/
def remove (s : Store) (metricKey : String) : Store :=
  let s := { s with
    stops := s.stops.erase metricKey
    collectors := s.collectors.erase metricKey
    metrics := s.metrics.erase metricKey }
  (s.predictors.keys.filter (belongsTo metricKey)).foldl removePredictor s

/-- Put in a model with its predictor. -/
def putModel (s : Store) (m : InstalledModel) : Store :=
  { s with
    models := s.models.insert m.key m.spec
    predictors := s.predictors.insert m.key m.predictor }

/-- Put in a metric with its collector, the loop that fills it, and its models. -/
def install (s : Store) (metric : Metric) (collector loop : Nat)
    (models : List InstalledModel) : Store :=
  models.foldl putModel { s with
    metrics := s.metrics.insert metric.key metric
    collectors := s.collectors.insert metric.key collector
    stops := s.stops.insert metric.key loop }

/-- Take an entry out of one map; whether there was one. -/
def eraseFrom (s : Store) (part : StorePart) (key : String) : Bool × Store :=
  match part with
  | .stops => (s.stops.contains key, { s with stops := s.stops.erase key })
  | .metrics => (s.metrics.contains key, { s with metrics := s.metrics.erase key })
  | .collectors => (s.collectors.contains key, { s with collectors := s.collectors.erase key })
  | .models => (s.models.contains key, { s with models := s.models.erase key })
  | .predictors => (s.predictors.contains key, { s with predictors := s.predictors.erase key })
  | .trainings => (s.trainings.contains key, { s with trainings := s.trainings.erase key })

/-- Keep in mind that a training went out. -/
def recordTraining (s : Store) (key : String) (r : TrainingRecord) : Store :=
  { s with trainings := s.trainings.insert key r }

/-- Whether the next training under a key may go out. -/
def trainingDue (s : Store) (key : String) (interval : Duration) (now : Nat) : Bool :=
  match s.trainings.find? key with
  | none => true
  | some r => interval.millis ≤ now - r.time

/-- Whether a collector is the one that is registered. -/
def isRegistered (s : Store) (key : String) (collector : Nat) : Bool :=
  s.collectors.find? key == some collector

end Store

end PredictiveScaling
