import PredictiveScaling.Json.Document

/-!
# Scale actions

What an attempt to scale ended up doing.
-/
namespace PredictiveScaling

inductive ScaleAction where
  | scaledUp (before after : Int32)
  | scaledDown (before after : Int32)
  /-- The target lies outside the bounds; nothing was changed. -/
  | refused (target limit : Int32)
  /-- A scale-down that is held back. -/
  | deferred (target current : Int32)
  | unchanged (replicas : Int32)
deriving DecidableEq, Repr

namespace ScaleAction

def label : ScaleAction → String
  | scaledUp .. => "scaled_up"
  | scaledDown .. => "scaled_down"
  | refused .. => "refused"
  | deferred .. => "deferred"
  | unchanged .. => "unchanged"

/-- The counts that an action tells, by name. -/
def counts : ScaleAction → List (String × Int32)
  | scaledUp before after => [("from", before), ("to", after)]
  | scaledDown before after => [("from", before), ("to", after)]
  | refused target limit => [("target", target), ("limit", limit)]
  | deferred target current => [("target", target), ("current", current)]
  | unchanged replicas => [("replicas", replicas)]

def toDocument (a : ScaleAction) : Json.Document :=
  .object (("action", .string a.label) :: a.counts.map fun (name, n) => (name, .int n.toInt))

end ScaleAction

end PredictiveScaling
