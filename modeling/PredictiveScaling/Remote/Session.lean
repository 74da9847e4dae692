import PredictiveScaling.Remote.Dispatch
import PredictiveScaling.Remote.Exchange

/-!
# Sessions with a model server

Predictors on one buffer and the server of their models, taken through their exchanges one
by one: a request reaches the server or not, the server answers or not, and reports arrive
at whoever listens. A session is the plainest surroundings in which the training of
several predictors can meet on one address.
-/
namespace PredictiveScaling

structure Session where
  buffer : Buffer
  predictors : Arena RemotePredictor
  sockets : Sockets
  awaited : List AwaitedRound
  serverUp : Bool
  /-- Whether TCP connections can be made at all. -/
  tcpConnects : Bool

namespace Session

def start (buffer : Buffer) (predictors : List RemotePredictor) (tcpConnects : Bool) : Session :=
  { buffer, predictors := ⟨predictors⟩, sockets := .empty, awaited := [], serverUp := true
    tcpConnects }

/-- Whether a connection to the server of a model comes about. -/
def reaches (s : Session) (e : Endpoint) : Bool :=
  match e with
  | .tcp _ => s.serverUp && s.tcpConnects
  | .path _ => s.serverUp

def append (s : Session) (xs : List Sample) : Session := { s with buffer := s.buffer.append xs }

def setServer (s : Session) (up : Bool) : Session := { s with serverUp := up }

/-- Ask the model of a predictor for a forecast; the server answers with bytes or never. -/
def predict (s : Session) (i : Nat) (reply : Option (List UInt8)) :
    Option (Exchange Forecast × Session) :=
  (s.predictors.get? i).map fun p =>
    match p.predictRequest s.buffer with
    | .error e => (.failed e, s)
    | .ok request =>
      let exchange :=
        Exchange.request (s.reaches p.endpoint) request.toDocument PredictReply.ofJson? reply
      let (result, p) := p.takeExchange request exchange.result
      (⟨result, exchange.sent⟩, { s with predictors := s.predictors.modify i fun _ => p })

/-- Start a training of the model of a predictor. -/
def train (s : Session) (i : Nat) (watched : Bool) : Option (Exchange Unit × Session) :=
  (s.predictors.get? i).map fun p =>
    let put (p : RemotePredictor) (sockets : Sockets) (awaited : List AwaitedRound) : Session :=
      { s with predictors := s.predictors.modify i fun _ => p, sockets, awaited }
    match p.beginDispatch s.buffer s.sockets with
    | (.error e, p, sockets) => (.failed e, put p sockets s.awaited)
    | (.ok d, p, sockets) =>
      let exchange := Exchange.send (s.reaches p.endpoint) d.request.toDocument
      let (p, sockets) := p.endDispatch d sockets exchange.result
      let awaited := match exchange.result with
        | .ok () => s.awaited ++ [⟨i, d.round, d.listener, watched⟩]
        | .error _ => s.awaited
      (exchange, put p sockets awaited)

/-- End a round that waited. -/
def endRound (s : Session) (a : AwaitedRound) (arrival : Arrival) : TrainingOutcome × Session :=
  let key := ((s.predictors.get? a.predictor).map (·.key)).getD ""
  let outcome := TrainingOutcome.ofArrival key arrival
  (outcome, { s with
    predictors := s.predictors.modify a.predictor fun p => p.endRound a.round outcome
    sockets := s.sockets.release a.listener
    awaited := s.awaited.filter fun b => b ≠ a })

/-- Send a report to the completion address of a predictor. It reaches whoever listens
there; without a connection there is no answer. -/
def report (s : Session) (i : Nat) (bs : List UInt8) :
    Option (Option TrainingOutcome × Session) := do
  let p ← s.predictors.get? i
  let listener ← s.sockets.listener? p.completion
  let a ← s.awaited.find? fun a => a.listener = listener
  match p.completion, s.tcpConnects with
  | .tcp _, false => none
  | _, _ =>
    let (outcome, s) := s.endRound a (.bytes bs)
    pure (if a.watched then some outcome else none, s)

/-- Let the round of a predictor time out. -/
def expire (s : Session) (i : Nat) : Option (Option TrainingOutcome × Session) := do
  let a ← s.awaited.find? fun a => a.predictor = i
  let (outcome, s) := s.endRound a .nothing
  pure (if a.watched then some outcome else none, s)

/-- Phase and flag of each predictor. -/
def states (s : Session) : List ModelReadiness := s.predictors.toList.map (·.readiness)

end Session

end PredictiveScaling
