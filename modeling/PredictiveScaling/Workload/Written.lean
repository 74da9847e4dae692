import PredictiveScaling.Workload
import PredictiveScaling.Json.Record
import PredictiveScaling.Json.Document

/-!
# Workloads in JSON

The written form of a workload's identity.
-/
namespace PredictiveScaling.Workload

def fieldNames : List String := ["namespace", "name", "kind"]

def ofJson? (j : Json) : Option Workload := do
  let r ← Json.record? fieldNames j
  pure {
    space := ← r.required? "namespace" Json.string?
    name := ← r.required? "name" Json.string?
    kind := ← r.required? "kind" Json.string? }

def toDocument (w : Workload) : Json.Document :=
  .object [("namespace", .string w.space), ("name", .string w.name), ("kind", .string w.kind)]

end PredictiveScaling.Workload
