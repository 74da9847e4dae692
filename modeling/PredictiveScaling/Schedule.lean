import PredictiveScaling.Duration

/-!
# Schedules

How often metrics are collected and workloads evaluated, and how long a single query or a
single forecast may take.
-/
namespace PredictiveScaling

structure CollectionConfig where
  interval : Duration
  queryTimeout : Duration
  /-- Samples retained per metric; 0 retains all. -/
  maxSamples : Nat
deriving DecidableEq, Repr

namespace CollectionConfig

/-- A day of samples at the default interval. -/
def defaultMaxSamples : Nat := 8640

def default : CollectionConfig := ⟨.ofSecs 10, .ofSecs 5, defaultMaxSamples⟩

instance : Inhabited CollectionConfig := ⟨default⟩

end CollectionConfig

structure EvaluationConfig where
  interval : Duration
  predictTimeout : Duration
deriving DecidableEq, Repr

namespace EvaluationConfig

def default : EvaluationConfig := ⟨.ofSecs 30, .ofSecs 30⟩

instance : Inhabited EvaluationConfig := ⟨default⟩

end EvaluationConfig

end PredictiveScaling
