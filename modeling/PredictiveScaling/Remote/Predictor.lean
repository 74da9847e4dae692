import PredictiveScaling.Forecast
import PredictiveScaling.Model
import PredictiveScaling.Sample.Buffer
import PredictiveScaling.Remote.Endpoint
import PredictiveScaling.Remote.Message
import PredictiveScaling.Remote.Readiness
import PredictiveScaling.Remote.Training

/-!
# Predictors with a served model

What a predictor sends and what it makes of what comes back. A training is a round: it
begins when the samples suffice and none is going on, it is either dispatched or not, and
a dispatched round ends with a report, with something that is no report, or with neither
in time. A predictor keeps the list of its rounds in flight.
-/
namespace PredictiveScaling

/-- How far a round of training has come. -/
inductive RoundPhase where
  /-- The request is on its way. -/
  | dispatching
  /-- Waiting for the report. -/
  | awaiting
deriving DecidableEq, Repr

structure TrainingRound where
  id : Nat
  phase : RoundPhase
deriving DecidableEq, Repr

structure RemotePredictor where
  key : String
  params : RemoteParams
  readiness : ModelReadiness
  rounds : List TrainingRound
  /-- The number of the next round. -/
  nextRound : Nat
deriving Repr

/-- Whether a model with these parameters can be made. -/
def RemoteParams.validate (p : RemoteParams) : Except ModelFault Unit :=
  if p.lookForward = 0 ∨ p.lookBack = 0 then .error .noWindow
  else if p.trainSize < p.lookBack then .error (.shortTraining p.trainSize p.lookBack)
  else .ok ()

/-- What became of waiting for a report. -/
inductive Arrival where
  | bytes (bs : List UInt8)
  | fault (cause : TransportFault)
  | nothing

namespace TrainingOutcome

/-- How a report ends the training of the model with this key. -/
def ofReport (key : String) (report : TrainReport) : TrainingOutcome :=
  match report.key with
  | some other =>
    if other ≠ key then .failed (.otherModel other) else rest
  | none => rest
where
  rest : TrainingOutcome :=
    if report.error ≠ "" then .failed (.stated report.error)
    else if report.trained then .trained (report.loss.getD 0.0)
    else .rejected

/-- How the training of the model with this key ends. -/
def ofArrival (key : String) : Arrival → TrainingOutcome
  | .nothing => .failed .timedOut
  | .fault cause => .failed (.unreceived (.transport cause))
  | .bytes bs =>
    match Line.read TrainReport.ofJson? bs with
    | .ok report => ofReport key report
    | .error cause => .failed (.unreceived (.transport cause))

end TrainingOutcome

/-- What the end of a training does to the readiness of the model. -/
def ModelReadiness.conclude (r : ModelReadiness) : TrainingOutcome → ModelReadiness
  | .trained _ => r.finish true
  | .rejected => r.finish false
  | .failed _ => r.abort

namespace RemotePredictor

def new (key : String) (params : RemoteParams) : Except ModelFault RemotePredictor :=
  params.validate.map fun () => ⟨key, params, .initial, [], 0⟩

def isReady (p : RemotePredictor) : Bool := p.readiness.ready

/-- Where the model is served. -/
def endpoint (p : RemotePredictor) : Endpoint := Endpoint.parse p.params.address

/-- Where the model reports the end of a training to. -/
def completionAddress (p : RemotePredictor) : String :=
  PredictiveScaling.completionAddress p.params.reportAddress p.key

def completion (p : RemotePredictor) : Endpoint := Endpoint.parse p.completionAddress

/-! ## Forecasts -/

/-- The request for a forecast. It is sent only to a model that is ready, and only when the
samples cover both what it looks at and the horizon. -/
def predictRequest (p : RemotePredictor) (b : Buffer) : Except PredictError PredictRequest :=
  if ¬ p.isReady then .error .modelNotReady
  else
    let need := max p.params.lookForward.toNat p.params.lookBack.toNat
    if b.size < need then .error (.insufficientData b.size need)
    else
      match b.values? p.params.lookBack.toNat with
      | none => .error (.insufficientData b.size need)
      | some history =>
        .ok { key := p.key, history, lookBack := p.params.lookBack,
              lookForward := p.params.lookForward }

/-- The forecast in a reply to a request. A model that says it is not trained loses its
readiness. -/
def takeReply (p : RemotePredictor) (request : PredictRequest) (reply : PredictReply) :
    Except PredictError Forecast × RemotePredictor :=
  if reply.error ≠ "" then (.error (.transport (.stated reply.error)), p)
  else if ¬ reply.trained then
    (.error .modelNotReady, { p with readiness := p.readiness.invalidate })
  else
    (.ok { values := reply.prediction, baseline := request.history.getLast?.getD 0.0,
           loss := reply.loss }, p)

/-- What an exchange that ended this way means for the forecast. -/
def takeExchange (p : RemotePredictor) (request : PredictRequest)
    (answer : Except PredictError PredictReply) : Except PredictError Forecast × RemotePredictor :=
  match answer with
  | .error e => (.error e, p)
  | .ok reply => p.takeReply request reply

/-! ## Training -/

/-- Begin a round over the last samples: its number and the request to send. -/
def beginRound (p : RemotePredictor) (b : Buffer) :
    Except PredictError ((Nat × TrainRequest) × RemotePredictor) :=
  let need := p.params.trainSize.toNat
  if b.size < need then .error (.insufficientData b.size need)
  else
    match b.values? need, p.readiness.begin? with
    | none, _ => .error (.insufficientData b.size need)
    | _, none => .error .trainingInProgress
    | some history, some readiness =>
      let request : TrainRequest :=
        { key := p.key, history, reportAddress := p.completionAddress
          lookBack := p.params.lookBack, lookForward := p.params.lookForward
          batchSize := p.params.batchSize, epochs := p.params.epochs, layers := p.params.layers }
      .ok ((p.nextRound, request), { p with
        readiness
        rounds := p.rounds ++ [⟨p.nextRound, .dispatching⟩]
        nextRound := p.nextRound + 1 })

def dropRound (p : RemotePredictor) (id : Nat) : RemotePredictor :=
  { p with rounds := p.rounds.filter fun r => r.id ≠ id }

/-- The request could not be sent; all is as before the round. -/
def rollBack (p : RemotePredictor) (id : Nat) : RemotePredictor :=
  { p.dropRound id with readiness := p.readiness.abort }

/-- The request was sent. -/
def dispatched (p : RemotePredictor) (id : Nat) : RemotePredictor :=
  { p with rounds := p.rounds.map fun r => if r.id = id then { r with phase := .awaiting } else r }

/-- End a round. -/
def endRound (p : RemotePredictor) (id : Nat) (outcome : TrainingOutcome) : RemotePredictor :=
  { p.dropRound id with readiness := p.readiness.conclude outcome }

end RemotePredictor

end PredictiveScaling
