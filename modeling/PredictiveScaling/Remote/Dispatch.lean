import PredictiveScaling.Remote.Predictor
import PredictiveScaling.Remote.Sockets

/-!
# Dispatching trainings

The request of a training goes out only when somebody already listens for its report, so
that the report of a quick model is not lost. When the request does not go out, neither
the round nor the listener stays.
-/
namespace PredictiveScaling

/-- A training whose request is on its way. -/
structure Dispatch where
  round : Nat
  /-- Who will get the report. -/
  listener : Nat
  request : TrainRequest
deriving Repr

namespace RemotePredictor

/-- Begin a round and listen for its report. -/
def beginDispatch (p : RemotePredictor) (b : Buffer) (s : Sockets) :
    Except PredictError Dispatch × RemotePredictor × Sockets :=
  match p.beginRound b with
  | .error e => (.error e, p, s)
  | .ok ((round, request), p) =>
    match s.bind p.completion with
    | (.error cause, s) => (.error (.transport cause), p.rollBack round, s)
    | (.ok listener, s) => (.ok ⟨round, listener, request⟩, p, s)

/-- The request went out, or it failed to. -/
def endDispatch (p : RemotePredictor) (d : Dispatch) (s : Sockets)
    (result : Except PredictError Unit) : RemotePredictor × Sockets :=
  match result with
  | .ok () => (p.dispatched d.round, s)
  | .error _ => (p.rollBack d.round, s.release d.listener)

/-- Whoever sent the request is gone; the predictor does not hear of it. -/
def abandonDispatch (p : RemotePredictor) (d : Dispatch) (s : Sockets) :
    RemotePredictor × Sockets :=
  (p.dropRound d.round, s.release d.listener)

end RemotePredictor

/-- A round that waits for its report. -/
structure AwaitedRound where
  predictor : Nat
  round : Nat
  listener : Nat
  /-- Whether somebody wants to know how it ends. -/
  watched : Bool
deriving DecidableEq, Repr

end PredictiveScaling
