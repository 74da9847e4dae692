import PredictiveScaling.Sample
import PredictiveScaling.Timestamp
import PredictiveScaling.Json.Record

/-!
# Samples in JSON

A written sample has a value and a point in time as text.
-/
namespace PredictiveScaling.Sample

def fieldNames : List String := ["value", "timestamp"]

def ofJson? (j : Json) : Option Sample := do
  let r ← Json.record? fieldNames j
  pure {
    value := ← r.required? "value" Json.float?
    time := ← r.required? "timestamp" fun t => (Json.string? t).bind Timestamp.ofText? }

end PredictiveScaling.Sample
