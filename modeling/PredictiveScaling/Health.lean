import PredictiveScaling.KeyMap
import PredictiveScaling.Workload
import PredictiveScaling.Json.Record
import PredictiveScaling.Json.Document

/-!
# Health

The parts of the controller report how they are under names of their own. A part that
belongs to a workload or a metric has that in its name, so that each one is visible by
itself. The controller is as bad as its worst part.
-/
namespace PredictiveScaling

inductive ComponentStatus where
  | healthy
  /-- At work, but the last round did not fully succeed. -/
  | degraded
  | unhealthy
deriving DecidableEq, Repr, Inhabited

namespace ComponentStatus

def names : List (String × ComponentStatus) :=
  [("healthy", healthy), ("degraded", degraded), ("unhealthy", unhealthy)]

def name : ComponentStatus → String
  | healthy => "healthy"
  | degraded => "degraded"
  | unhealthy => "unhealthy"

/-- How bad a status is. -/
def severity : ComponentStatus → Nat
  | healthy => 0
  | degraded => 1
  | unhealthy => 2

/-- The worse of two. -/
def worse (a b : ComponentStatus) : ComponentStatus := if a.severity < b.severity then b else a

/-- The worst of some; without any, all is well. -/
def worst (l : List ComponentStatus) : ComponentStatus := l.foldl worse healthy

end ComponentStatus

/-- How one part is. -/
structure ComponentHealth where
  status : ComponentStatus
  message : Option String
  /-- When it was reported, in seconds since 1970. -/
  lastCheck : Int64
deriving DecidableEq, Repr, Inhabited

namespace ComponentHealth

def fieldNames : List String := ["status", "message", "last_check_timestamp"]

def ofJson? (j : Json) : Option ComponentHealth := do
  let r ← Json.record? fieldNames j
  pure {
    status := ← r.required? "status" (Json.choice? ComponentStatus.names)
    message := ← r.optional? "message" Json.string?
    lastCheck := ← r.required? "last_check_timestamp" Json.int64? }

/-- An absent message is left out. -/
def toDocument (h : ComponentHealth) : Json.Document :=
  .object ([("status", .string h.status.name)] ++
    (match h.message with
      | some m => [("message", .string m)]
      | none => []) ++
    [("last_check_timestamp", .int h.lastCheck.toInt)])

end ComponentHealth

/-- How the controller is, with all its parts. -/
structure HealthReport where
  status : ComponentStatus
  components : KeyMap String ComponentHealth

namespace HealthReport

def fieldNames : List String := ["status", "components"]

/-- Members of an object, read one by one; of members with one name the last counts. -/
def componentsOfJson? : Json → Option (KeyMap String ComponentHealth)
  | .object members => do
    let named ← Json.namedMembers? members
    let read ← named.mapM fun (k, j) => (ComponentHealth.ofJson? j).map fun h => (k, h)
    pure (KeyMap.ofList read)
  | _ => none

def ofJson? (j : Json) : Option HealthReport := do
  let r ← Json.record? fieldNames j
  pure {
    status := ← r.required? "status" (Json.choice? ComponentStatus.names)
    components := ← r.required? "components" componentsOfJson? }

/-- Components are written in the order of their names. -/
def toDocument (r : HealthReport) : Json.Document :=
  .object [("status", .string r.status.name),
    ("components", .object (Json.sortMembers
      (r.components.toList.map fun (k, h) => (k, h.toDocument))))]

/-- The worst status among components. -/
def statusOf (components : KeyMap String ComponentHealth) : ComponentStatus :=
  ComponentStatus.worst (components.toList.map fun e => e.2.status)

end HealthReport

/-- Whether the controller is ready to be used. -/
structure ReadinessReport where
  ready : Bool
  reason : Option String
deriving DecidableEq, Repr

namespace ReadinessReport

def fieldNames : List String := ["ready", "reason"]

def ofJson? (j : Json) : Option ReadinessReport := do
  let r ← Json.record? fieldNames j
  pure {
    ready := ← r.required? "ready" Json.bool?
    reason := ← r.optional? "reason" Json.string? }

/-- An absent reason is left out. -/
def toDocument (r : ReadinessReport) : Json.Document :=
  .object (("ready", .bool r.ready) ::
    match r.reason with
    | some m => [("reason", .string m)]
    | none => [])

end ReadinessReport

/-! ## The registry of parts -/

/-- The name of a part that belongs to something. -/
def scopedName (part owner : String) : String := part ++ ":" ++ owner

def collectorComponent (metricKey : String) : String := scopedName "collector" metricKey

def schedulerComponent (w : Workload) : String := scopedName "scheduler" w.text

def scalerComponent (w : Workload) : String := scopedName "scaler" w.text

/-- What the parts reported last, and whether the controller has been started. -/
structure HealthRegistry where
  components : KeyMap String ComponentHealth
  ready : Bool

namespace HealthRegistry

def empty : HealthRegistry := ⟨KeyMap.empty, false⟩

instance : Inhabited HealthRegistry := ⟨empty⟩

def update (r : HealthRegistry) (name : String) (h : ComponentHealth) : HealthRegistry :=
  { r with components := r.components.insert name h }

def setHealthy (r : HealthRegistry) (now : Int64) (name : String) : HealthRegistry :=
  r.update name ⟨.healthy, none, now⟩

def setDegraded (r : HealthRegistry) (now : Int64) (name message : String) : HealthRegistry :=
  r.update name ⟨.degraded, some message, now⟩

def setUnhealthy (r : HealthRegistry) (now : Int64) (name message : String) : HealthRegistry :=
  r.update name ⟨.unhealthy, some message, now⟩

/-- A part is healthy when it is registered. -/
def register (r : HealthRegistry) (now : Int64) (name : String) : HealthRegistry :=
  r.setHealthy now name

/-- Register what evaluates and what scales a workload. -/
def registerWorkload (r : HealthRegistry) (now : Int64) (w : Workload) : HealthRegistry :=
  (r.register now (schedulerComponent w)).register now (scalerComponent w)

def unregister (r : HealthRegistry) (name : String) : HealthRegistry :=
  { r with components := r.components.erase name }

def setReady (r : HealthRegistry) (ready : Bool) : HealthRegistry := { r with ready }

def report (r : HealthRegistry) : HealthReport :=
  ⟨HealthReport.statusOf r.components, r.components⟩

/-- The names of the unhealthy parts, sorted. -/
def unhealthyNames (r : HealthRegistry) : List String :=
  ((r.components.toList.filter fun e => e.2.status = .unhealthy).map Prod.fst).mergeSort
    fun a b => a ≤ b

/-- Ready once started and while no part is unhealthy. -/
def readiness (r : HealthRegistry) : ReadinessReport :=
  if ¬ r.ready then ⟨false, some "Controller not yet initialized"⟩
  else
    match r.unhealthyNames with
    | [] => ⟨true, none⟩
    | names => ⟨false, some ("Unhealthy components: " ++ ", ".intercalate names)⟩

end HealthRegistry

end PredictiveScaling
