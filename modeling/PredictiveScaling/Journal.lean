import PredictiveScaling.Remote.Training
import PredictiveScaling.Scaling.Action

/-!
# The journal

Structured records about the life of the controller and its decisions. Each record names
its event and the instance that writes it.
-/
namespace PredictiveScaling.Journal

inductive Severity where
  | info
  | warn
deriving DecidableEq, Repr

def Severity.name : Severity → String
  | info => "INFO"
  | warn => "WARN"

structure Record where
  severity : Severity
  message : String
  fields : List (String × Json.Document)

/-- A record of an event with the fields that only it has. -/
def record (severity : Severity) (event instanceName message : String)
    (fields : List (String × Json.Document)) : Record :=
  ⟨severity, message, ("event", .string event) :: ("instance", .string instanceName) :: fields⟩

def started (instanceName version : String) (workloads : Nat) : Record :=
  record .info "controller_started" instanceName "Forecast autoscaler started"
    [("version", .string version), ("workloads", .ofNat workloads)]

def stopped (instanceName reason : String) : Record :=
  record .info "controller_shutdown" instanceName "Forecast autoscaler shutting down"
    [("reason", .string reason)]

def workloadStarted (instanceName workload : String) (metrics predictors : Nat) : Record :=
  record .info "workload_started" instanceName "Started managing workload"
    [("workload", .string workload), ("metrics", .ofNat metrics),
      ("predictors", .ofNat predictors)]

/-- What an evaluation decided. -/
def decided (instanceName workload : String) (target : Int32) (action : ScaleAction) : Record :=
  let common := [("workload", Json.Document.string workload), ("target", .int target.toInt)]
  let label := ("action", Json.Document.string action.label)
  match action with
  | .scaledUp before after | .scaledDown before after =>
    record .info "scale_applied" instanceName "Applied scale decision"
      (common ++ [("from", .int before.toInt), ("to", .int after.toInt), label])
  | .refused _ limit =>
    record .warn "scale_refused" instanceName "Scale decision outside replica bounds"
      (common ++ [("limit", .int limit.toInt)])
  | .deferred .. | .unchanged _ =>
    record .info "scale_evaluated" instanceName "Evaluated scale decision" (common ++ [label])

/-- How a training ended. -/
def trainingEnded (instanceName predictor : String) (outcome : TrainingOutcome) : Record :=
  let key := ("predictor", Json.Document.string predictor)
  match outcome with
  | .trained loss =>
    record .info "model_trained" instanceName "Remote model trained" [key, ("loss", .float loss)]
  | .rejected =>
    record .warn "model_training_rejected" instanceName "Remote model reported it is untrained"
      [key]
  | .failed reason =>
    record .warn "model_training_failed" instanceName "Remote model training failed"
      [key, ("reason", .string reason.message)]

end PredictiveScaling.Journal
