import PredictiveScaling.Duration
import PredictiveScaling.Text.Split

/-!
# Metrics

A metric is a query whose value drives a workload's replica count. It is known by a key
made of its name, unit and query; a predictor on it by that key and the tag of its model.
-/
namespace PredictiveScaling

/-- When a scale-down may be issued: the least relative drop, and how long the target has
to stay below the current count. -/
structure ScaleDown where
  threshold : Float
  duration : Duration
deriving Repr, Inhabited

namespace ScaleDown

/-- No threshold and no delay. -/
def none : ScaleDown := ⟨0.0, Duration.zero⟩

/-- The larger of two thresholds; one that is not a number counts for nothing. -/
def maxThreshold (a b : Float) : Float :=
  if a.isNaN then b else if b.isNaN then a else if a < b then b else a

/-- The stricter of two settings in both respects. -/
def max (a b : ScaleDown) : ScaleDown :=
  ⟨maxThreshold a.threshold b.threshold, a.duration.max b.duration⟩

end ScaleDown

/-- A monitored metric. -/
structure Metric where
  name : String
  unit : String
  query : String
  /-- The value that one replica is expected to sustain. -/
  target : Float
  /-- The share of this metric in the decision. -/
  weight : Int32
  scaleDown : ScaleDown
deriving Repr, Inhabited

/-- Stands between the parts of keys. -/
def keyMark : Char := '$'

namespace Metric

/-- The key of the metric and of its collector. -/
def key (m : Metric) : String :=
  m.name ++ String.singleton keyMark ++ m.unit ++ String.singleton keyMark ++ m.query

/-- The key of the predictor with a model of this tag. -/
def predictorKey (m : Metric) (tag : String) : String :=
  m.key ++ String.singleton keyMark ++ tag

end Metric

/-- The metric key and the model tag in a predictor key. -/
def splitPredictorKey? (key : String) : Option (String × String) := Text.splitLast? keyMark key

theorem splitPredictorKey?_predictorKey (m : Metric) (tag : String) (h : keyMark ∉ tag.toList) :
    splitPredictorKey? (m.predictorKey tag) = some (m.key, tag) := by
  have hsplit := Text.splitLastChars?_append keyMark m.key.toList tag.toList h
  simp only [splitPredictorKey?, Text.splitLast?, Metric.predictorKey, String.toList_append,
    String.toList_singleton, List.append_assoc, List.singleton_append, hsplit]
  simp

end PredictiveScaling
