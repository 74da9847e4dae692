import PredictiveScaling.Metric
import PredictiveScaling.Model.Written

/-!
# Metrics in JSON

The written forms of metrics and of their scale-down settings. A metric without settings
has no threshold and no delay.
-/
namespace PredictiveScaling

namespace ScaleDown

def fieldNames : List String := ["threshold", "duration"]

def ofJson? (j : Json) : Option ScaleDown := do
  let r ← Json.record? fieldNames j
  pure {
    threshold := ← r.required? "threshold" Json.float?
    duration := ← r.required? "duration" Duration.ofJson? }

def toDocument (s : ScaleDown) : Json.Document :=
  .object [("threshold", .float s.threshold), ("duration", s.duration.toDocument)]

end ScaleDown

namespace Metric

def fieldNames : List String := ["name", "unit", "query", "target", "weight", "scale_down"]

def ofJson? (j : Json) : Option Metric := do
  let r ← Json.record? fieldNames j
  pure {
    name := ← r.required? "name" Json.string?
    unit := ← r.required? "unit" Json.string?
    query := ← r.required? "query" Json.string?
    target := ← r.required? "target" Json.float?
    weight := ← r.required? "weight" Json.int32?
    scaleDown := ← r.withDefault? "scale_down" ScaleDown.none ScaleDown.ofJson? }

def toDocument (m : Metric) : Json.Document :=
  .object [("name", .string m.name), ("unit", .string m.unit), ("query", .string m.query),
    ("target", .float m.target), ("weight", .int m.weight.toInt),
    ("scale_down", m.scaleDown.toDocument)]

end Metric

end PredictiveScaling
