import PredictiveScaling.KeyMap

/-!
# Telemetry

Counters and gauges that tell from outside how the controller works: what is collected
and forecast and how often that fails, how trainings end, and what scaling does.
-/
namespace PredictiveScaling

inductive FamilyKind where
  | counter
  | gauge
  | histogram
deriving DecidableEq, Repr

def FamilyKind.name : FamilyKind → String
  | .counter => "counter"
  | .gauge => "gauge"
  | .histogram => "histogram"

/-- A family of time series. -/
structure Family where
  name : String
  help : String
  kind : FamilyKind
deriving DecidableEq, Repr

namespace Family

def collectionLatency : Family :=
  ⟨"autoscaler_collection_latency_seconds", "Time spent querying the metric source", .histogram⟩

def predictionLatency : Family :=
  ⟨"autoscaler_prediction_latency_seconds", "Time spent producing one forecast", .histogram⟩

def collectionErrors : Family :=
  ⟨"autoscaler_collection_errors_total", "Failed or timed out metric queries", .counter⟩

def predictionErrors : Family :=
  ⟨"autoscaler_prediction_errors_total", "Predictions that produced no forecast", .counter⟩

def trainingRounds : Family :=
  ⟨"autoscaler_training_rounds_total", "Completed remote training rounds by outcome", .counter⟩

def targetReplicas : Family :=
  ⟨"autoscaler_target_replicas", "Last computed target replica count", .gauge⟩

def scaleActions : Family :=
  ⟨"autoscaler_scale_actions_total", "Scale decisions by action", .counter⟩

def predictorsReady : Family :=
  ⟨"autoscaler_predictors_ready", "Predictors able to serve forecasts", .gauge⟩

def bufferedSamples : Family :=
  ⟨"autoscaler_buffered_samples", "Samples retained per metric collector", .gauge⟩

/-- The families without labels; they are shown from the start. -/
def unlabelled : List Family := [collectionErrors, collectionLatency, predictionLatency]

/-- What stands above the series of a family. -/
def header (f : Family) : List String :=
  ["# HELP " ++ f.name ++ " " ++ f.help, "# TYPE " ++ f.name ++ " " ++ f.kind.name]

end Family

/-- One series of a family: labels in the order of their names, and a value. Of a histogram
the value is the number of observations. -/
structure Reading where
  family : Family
  labels : List (String × String)
  value : Int
deriving DecidableEq, Repr

/-- Everything that is counted. -/
structure Telemetry where
  collections : Nat
  collectionErrors : Nat
  predictions : Nat
  /-- By kind of error. -/
  predictionErrors : KeyMap String Nat
  /-- By outcome. -/
  trainingRounds : KeyMap String Nat
  /-- By workload and action. -/
  scaleActions : KeyMap (String × String) Nat
  /-- By workload. -/
  targetReplicas : KeyMap String Int32
  /-- By workload. -/
  predictorsReady : KeyMap String Nat
  /-- By metric key. -/
  bufferedSamples : KeyMap String Nat

namespace Telemetry

def empty : Telemetry :=
  { collections := 0, collectionErrors := 0, predictions := 0
    predictionErrors := .empty, trainingRounds := .empty, scaleActions := .empty
    targetReplicas := .empty, predictorsReady := .empty, bufferedSamples := .empty }

instance : Inhabited Telemetry := ⟨empty⟩

/-- A query has ended. -/
def countCollection (t : Telemetry) (failed : Bool) : Telemetry :=
  { t with
    collections := t.collections + 1
    collectionErrors := t.collectionErrors + if failed then 1 else 0 }

/-- A forecast was made, or there is none. -/
def countPrediction (t : Telemetry) : Telemetry := { t with predictions := t.predictions + 1 }

/-- A predictor has failed. -/
def countPredictionError (t : Telemetry) (transient : Bool) : Telemetry :=
  { t with
    predictionErrors := t.predictionErrors.add (if transient then "transient" else "failure") 1 }

def countTraining (t : Telemetry) (outcome : String) : Telemetry :=
  { t with trainingRounds := t.trainingRounds.add outcome 1 }

def countAction (t : Telemetry) (workload action : String) : Telemetry :=
  { t with scaleActions := t.scaleActions.add (workload, action) 1 }

def setTarget (t : Telemetry) (workload : String) (n : Int32) : Telemetry :=
  { t with targetReplicas := t.targetReplicas.insert workload n }

def setReady (t : Telemetry) (workload : String) (n : Nat) : Telemetry :=
  { t with predictorsReady := t.predictorsReady.insert workload n }

def setBuffered (t : Telemetry) (metricKey : String) (n : Nat) : Telemetry :=
  { t with bufferedSamples := t.bufferedSamples.insert metricKey n }

/-- All series. -/
def readings (t : Telemetry) : List Reading :=
  [⟨.collectionErrors, [], t.collectionErrors⟩, ⟨.collectionLatency, [], t.collections⟩,
    ⟨.predictionLatency, [], t.predictions⟩] ++
  (t.predictionErrors.toList.map fun (k, n) => ⟨.predictionErrors, [("kind", k)], n⟩) ++
  (t.trainingRounds.toList.map fun (k, n) => ⟨.trainingRounds, [("outcome", k)], n⟩) ++
  (t.scaleActions.toList.map fun (k, n) =>
    ⟨.scaleActions, [("action", k.2), ("workload", k.1)], n⟩) ++
  (t.targetReplicas.toList.map fun (k, n) => ⟨.targetReplicas, [("workload", k)], n.toInt⟩) ++
  (t.predictorsReady.toList.map fun (k, n) => ⟨.predictorsReady, [("workload", k)], n⟩) ++
  (t.bufferedSamples.toList.map fun (k, n) => ⟨.bufferedSamples, [("metric", k)], n⟩)

end Telemetry

end PredictiveScaling
