import PredictiveScaling.Forecast.Scalar

/-!
# Replica counts from forecasts

A base strategy turns each forecast value into the count of replicas that is enough for
it: enough to keep the load per replica where it is now, or to keep it under the target
of the metric.
-/
namespace PredictiveScaling

inductive BaseStrategy where
  /-- Keep the load per replica where it is now. -/
  | steady
  /-- Keep the load per replica under the target. -/
  | underThreshold
deriving DecidableEq, Repr, Inhabited

namespace BaseStrategy

variable {α : Type} [Scalar α]

/-- The written names. -/
def names : List (String × BaseStrategy) :=
  [("steady", steady), ("under_threshold", underThreshold)]

def name : BaseStrategy → String
  | steady => "steady"
  | underThreshold => "under_threshold"

/-- Whether the current count is needed. -/
def readsCurrent : BaseStrategy → Bool
  | steady => true
  | underThreshold => false

/-- Counts in proportion to the current one. A baseline of zero says nothing about the load,
so the current count is kept. -/
def steadyCounts (values : List α) (baseline : α) (current : Int32) : List Int32 :=
  if Scalar.isZero baseline then List.replicate values.length (max current 0)
  else values.map fun f => Scalar.ceilCount (Scalar.ofInt current.toInt * f / baseline)

/-- Counts that share each value by the target. A target of zero gives zeros. -/
def thresholdCounts (values : List α) (target : α) : List Int32 :=
  if Scalar.isZero target then List.replicate values.length 0
  else values.map fun f => Scalar.ceilCount (f / target)

/-- One count per forecast value. -/
def counts (s : BaseStrategy) (values : List α) (baseline : α) (current : Int32) (target : α) :
    List Int32 :=
  match s with
  | steady => steadyCounts values baseline current
  | underThreshold => thresholdCounts values target

theorem length_counts (s : BaseStrategy) (values : List α) (baseline : α) (current : Int32)
    (target : α) : (s.counts values baseline current target).length = values.length := by
  cases s <;> simp only [counts, steadyCounts, thresholdCounts] <;> split <;> simp

end BaseStrategy

end PredictiveScaling
