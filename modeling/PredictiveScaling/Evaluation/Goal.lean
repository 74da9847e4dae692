import PredictiveScaling.KeyMap
import PredictiveScaling.Metric
import PredictiveScaling.Replicas.Fold
import PredictiveScaling.Scaling.Scaler

/-!
# The goal of an evaluation

The counts that the predictors of a workload ask for become one target. Those on one
metric are folded, the metrics are added up by weight, the highest sum is taken and
divided by the whole weight, and a part of a replica counts as a whole one. The strictest
settings for scaling down go with the target.
-/
namespace PredictiveScaling

/-- The counts that a predictor asks for, under its key. -/
structure PredictorResult where
  key : String
  counts : List Int32
deriving DecidableEq, Repr

/-- Where to scale, and how carefully. -/
structure Goal where
  target : Int32
  scaleDown : ScaleDown
deriving Repr

namespace Goal

/-- Put counts to those of the same metric; metrics stand in the order of their keys. -/
def insertGroup (metricKey : String) (counts : List Int32) :
    List (String × List (List Int32)) → List (String × List (List Int32))
  | [] => [(metricKey, [counts])]
  | g :: gs =>
    if g.1 = metricKey then (g.1, g.2 ++ [counts]) :: gs
    else if metricKey < g.1 then (metricKey, [counts]) :: g :: gs
    else g :: insertGroup metricKey counts gs

/-- Results by metric. One whose key is no predictor key is left out. -/
def groups (results : List PredictorResult) : List (String × List (List Int32)) :=
  results.foldl (fun gs r =>
    match splitPredictorKey? r.key with
    | some (metricKey, _) => insertGroup metricKey r.counts gs
    | none => gs) []

/-- A metric with the counts that its predictors ask for together. -/
structure Share where
  metric : Metric
  counts : List Int32

/-- The groups whose metrics are installed, each folded. -/
def shares (strategy : ModelStrategy) (metrics : KeyMap String Metric)
    (results : List PredictorResult) : List Share :=
  (groups results).filterMap fun (metricKey, sequences) =>
    (metrics.find? metricKey).map fun metric => ⟨metric, strategy.apply sequences⟩

/-- The sum of all weights, a 64-bit word. -/
def totalWeight (shares : List Share) : Int64 :=
  shares.foldl (fun w s => w + s.metric.weight.toInt64) 0

/-- The strictest settings among the metrics. -/
def scaleDownOf (shares : List Share) : ScaleDown :=
  shares.foldl (fun d s => d.max s.metric.scaleDown) .none

/-- The largest count. -/
def maxCount : Int := 2147483647

/-- The peak as a count: divided by the weight, rounded up and within the range of counts.
The sum before the division is a 64-bit word. -/
def countOfPeak (peak weight : Int64) : Int32 :=
  Int32.ofInt (max 0 (min ((peak + weight - 1).toInt / weight.toInt) maxCount))

/-- The goal of some shares. Without a positive weight or without a step that all have in
common there is none. -/
def ofShares? (strategy : PeakStrategy) (shares : List Share) : Option Goal :=
  let weight := totalWeight shares
  if weight ≤ 0 then none
  else
    (strategy.apply (weightedSum (shares.map fun s => (s.metric.weight, s.counts)))).map
      fun peak => ⟨countOfPeak peak weight, scaleDownOf shares⟩

/-- The goal that the results of an evaluation set. -/
def ofResults? (config : ScalerConfig) (metrics : KeyMap String Metric)
    (results : List PredictorResult) : Option Goal :=
  ofShares? config.peakStrategy (shares config.modelStrategy metrics results)

end Goal

end PredictiveScaling
