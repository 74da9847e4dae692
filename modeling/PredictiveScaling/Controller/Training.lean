import PredictiveScaling.Controller.Basic

/-!
# Training

A model that is computed here has nothing to train. For a served model a request goes out
and its report is awaited; only a training that an evaluation has sent is counted and
written to the journal.
-/
namespace PredictiveScaling.Controller

/-- Put back a predictor with a served model, and the sockets it has used. -/
def putRemote (c : Controller) (id : Nat) (r : RemotePredictor) (sockets : Sockets) :
    Controller :=
  { c with
    sockets
    predictors := c.predictors.modify id fun p => { p with model := .remote r } }

/-- Begin a training; there is a request to send if the model is a served one. -/
def beginTraining (c : Controller) (id : Nat) :
    Except PredictError (Option Dispatch) × Controller :=
  match c.predictors.get? id with
  | some ⟨_, collector, .remote r⟩ =>
    let (result, r, sockets) := r.beginDispatch (c.buffer collector) c.sockets
    (result.map some, c.putRemote id r sockets)
  | _ => (.ok none, c)

/-- Wait for the report of a round. -/
def awaitRound (c : Controller) (a : AwaitedRound) : Controller :=
  { c with awaited := c.awaited ++ [a] }.call (.awaitReport a.predictor a.round)

/-- The request went out, or it failed to. -/
def endDispatch (c : Controller) (id : Nat) (d : Dispatch) (watched : Bool)
    (result : Except PredictError Unit) : Controller :=
  match c.predictors.get? id with
  | some ⟨_, _, .remote r⟩ =>
    let (r, sockets) := r.endDispatch d c.sockets result
    let c := c.putRemote id r sockets
    match result with
    | .ok () => c.awaitRound ⟨id, d.round, d.listener, watched⟩
    | .error _ => c
  | _ => c

/-- Whoever sent the request has been stopped. -/
def abandonDispatch (c : Controller) (id : Nat) (d : Dispatch) : Controller :=
  match c.predictors.get? id with
  | some ⟨_, _, .remote r⟩ =>
    let (r, sockets) := r.abandonDispatch d c.sockets
    c.putRemote id r sockets
  | _ => c

/-- Tell how a training ended that an evaluation has sent. -/
def announceTraining (c : Controller) (key : String) (outcome : TrainingOutcome) : Controller :=
  (c.count fun t => t.countTraining outcome.label).call
    (.journal (Journal.trainingEnded c.instanceName key outcome))

/-- What was awaited has come, or it will not come. -/
def endTraining (c : Controller) (id round : Nat) (arrival : Arrival) : Controller :=
  match c.awaited.find? fun a => a.predictor = id ∧ a.round = round, c.predictors.get? id with
  | some a, some ⟨key, _, .remote r⟩ =>
    let outcome := TrainingOutcome.ofArrival r.key arrival
    let c := c.putRemote id (r.endRound round outcome) (c.sockets.release a.listener)
    let c := { c with awaited := c.awaited.filter fun b => b ≠ a }
    if a.watched then c.announceTraining key outcome else c
  | _, _ => c

/-- Keep in mind that a training under a key went out. -/
def recordTraining (c : Controller) (key : String) (id : Nat) : Controller :=
  { c with store := c.store.recordTraining key ⟨c.now.steady, id⟩ }

/-- Whether the next training under a key may go out. -/
def trainingDue (c : Controller) (key : String) (interval : Duration) : Bool :=
  c.store.trainingDue key interval c.now.steady

end PredictiveScaling.Controller
