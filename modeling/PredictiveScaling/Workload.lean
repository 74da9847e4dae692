/-!
# Workloads

A workload is what gets resized: an object of some kind in the cluster, known by its
namespace and name.
-/
namespace PredictiveScaling

/-- The identity of a workload; `space` is its namespace. -/
structure Workload where
  space : String
  name : String
  kind : String
deriving DecidableEq, Repr, Inhabited

/-- How a workload is shown; the kind is left out. -/
def Workload.text (w : Workload) : String := w.space ++ "/" ++ w.name

end PredictiveScaling
