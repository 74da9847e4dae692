import PredictiveScaling.Health
import PredictiveScaling.Http.Request
import PredictiveScaling.Telemetry
import PredictiveScaling.Workload

/-!
# Routes

What the controller shows over HTTP: whether it is healthy and ready, its telemetry, and
what is registered for each workload. Lists are in the order of their texts.
-/
namespace PredictiveScaling.Http

structure CollectorStatus where
  metricKey : String
  buffered : Nat
deriving DecidableEq, Repr

structure PredictorStatus where
  key : String
  tag : String
  ready : Bool
deriving DecidableEq, Repr

/-- What is registered for a workload. -/
structure WorkloadStatus where
  workload : Workload
  collectors : List CollectorStatus
  predictors : List PredictorStatus
deriving DecidableEq, Repr

namespace CollectorStatus

def toDocument (s : CollectorStatus) : Json.Document :=
  .object [("metric", .string s.metricKey), ("buffered", .ofNat s.buffered)]

end CollectorStatus

namespace PredictorStatus

def toDocument (s : PredictorStatus) : Json.Document :=
  .object [("predictor", .string s.key), ("model", .string s.tag), ("ready", .bool s.ready)]

end PredictorStatus

namespace WorkloadStatus

/-- Collectors and predictors in the order of their keys. -/
def sorted (s : WorkloadStatus) : WorkloadStatus :=
  { s with
    collectors := s.collectors.mergeSort fun a b => a.metricKey ≤ b.metricKey
    predictors := s.predictors.mergeSort fun a b => a.key ≤ b.key }

def toDocument (s : WorkloadStatus) : Json.Document :=
  .object [("workload", .string s.workload.text), ("kind", .string s.workload.kind),
    ("collectors", .array (s.collectors.map CollectorStatus.toDocument)),
    ("predictors", .array (s.predictors.map PredictorStatus.toDocument))]

/-- All workloads in the order of their texts. -/
def listing (l : List WorkloadStatus) : List WorkloadStatus :=
  (l.map sorted).mergeSort fun a b => a.workload.text ≤ b.workload.text

end WorkloadStatus

inductive Body where
  | empty
  | document (d : Json.Document)
  /-- The lines that describe families of series. -/
  | families (lines : List String)

structure Response where
  status : Nat
  contentType : Option String
  body : Body

/-- What there is to show. -/
structure Content where
  health : HealthRegistry
  workloads : List WorkloadStatus

namespace Response

/-- A response without content. -/
def bare (status : Nat) : Response := ⟨status, none, .empty⟩

def json (status : Nat) (d : Json.Document) : Response :=
  ⟨status, some "application/json", .document d⟩

/-- Works, if not at its best. -/
def healthz (c : Content) : Response :=
  let report := c.health.report
  json (if report.status = .unhealthy then 503 else 200) report.toDocument

def readyz (c : Content) : Response :=
  let report := c.health.readiness
  json (if report.ready then 200 else 503) report.toDocument

def metrics : Response :=
  ⟨200, some "text/plain; version=0.0.4", .families (Family.unlabelled.flatMap Family.header)⟩

def workloads (c : Content) : Response :=
  json 200 (.array ((WorkloadStatus.listing c.workloads).map WorkloadStatus.toDocument))

end Response

/-- The response on each path. -/
def routes (c : Content) : List (String × Response) :=
  [("/healthz", Response.healthz c), ("/readyz", Response.readyz c),
    ("/metrics", Response.metrics), ("/workloads", Response.workloads c)]

/-- The response to a request. -/
def respond (c : Content) (request : Request) : Response :=
  match (routes c).lookup request.target.path with
  | none => .bare 404
  | some r =>
    if request.method = "GET" then r
    else if request.method = "HEAD" then { r with body := .empty }
    else .bare 405

end PredictiveScaling.Http
