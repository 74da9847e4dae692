import PredictiveScaling.Controller.Step
import PredictiveScaling.Registry
import PredictiveScaling.Remote.Exchange
import PredictiveScaling.Simulation.Queue
import PredictiveScaling.Simulation.Script

/-!
# Simulations

A controller among scripted surroundings. The calls of the controller are taken by the
scripts, and what they answer is put into a queue until it is time for it. Time passes
only while the queue is worked off. A training may be under way only where there is a
server of models; elsewhere no request gets through.
-/
namespace PredictiveScaling

/-- What is to happen in a simulation. -/
inductive Occurrence where
  | event (e : Event)
  /-- A read ends; the event that tells what it found is made from it. -/
  | readEnds (tell : Except SourceError Int32 → Event)

/-- A loop that was started by itself. -/
inductive LoopHandle where
  | collection (loop : Nat)
  | evaluation (loop : Nat)
deriving DecidableEq, Repr

structure Simulation where
  controller : Controller
  now : Moment
  queue : Queue Occurrence
  /-- The sources of all collectors, by their numbers. -/
  sources : Arena ScriptedSource
  /-- The collectors whose sources were installed last, by metric key; none where a shared
  collector kept the source it had. -/
  installed : KeyMap String (Option Nat)
  orchestrator : Orchestrator
  server : Option ModelServer
  collection : CollectionConfig
  requestTimeout : Duration
  trainingTimeout : Duration
  handles : List LoopHandle
  registry : Registry Unit

namespace Simulation

/-! ## Served models -/

/-- Whether requests for a model get through. -/
def reaches (s : Simulation) (p : RemotePredictor) : Bool :=
  s.server.isSome && p.params.address != ModelServer.downAddress

/-- What the server sends to a predictor. -/
def script (s : Simulation) (key : String) : ModelScript :=
  match s.server with
  | some m => m.script key
  | none => ⟨none, none⟩

/-- How asking for a forecast goes. -/
def askModel (s : Simulation) (p : RemotePredictor) (request : PredictRequest) :
    Exchange PredictReply :=
  Exchange.request (s.reaches p) request.toDocument PredictReply.ofJson? (s.script p.key).reply

/-- How sending a training goes. -/
def sendTraining (s : Simulation) (p : RemotePredictor) (request : TrainRequest) :
    Exchange Unit :=
  Exchange.send (s.reaches p) request.toDocument

/-- Whether the server leaves a request unanswered. -/
def leavesOpen (s : Simulation) (p : RemotePredictor) : Bool :=
  s.reaches p && (s.script p.key).reply.isNone

def remotePredictor? (s : Simulation) (id : Nat) : Option RemotePredictor :=
  (s.controller.predictors.get? id).bind Predictor.remote?

/-! ## Taking calls -/

def put (s : Simulation) (due : Nat) (x : Occurrence) : Simulation :=
  { s with queue := s.queue.insert due x }

/-- Let something happen before all else. -/
def putFirst (s : Simulation) (x : Occurrence) : Simulation :=
  { s with queue := s.queue.insertFirst s.now.timer x }

/-- Let something happen after a while; without one, before all else. -/
def putAfter (s : Simulation) (delay : Duration) (x : Occurrence) : Simulation :=
  if delay.millis = 0 then s.putFirst x else s.put (s.now.timer + delay.millis) x

/-- The next answer of a collector's source. -/
def querySource (s : Simulation) (collector : Nat) : ScriptedAnswer × Simulation :=
  match s.sources.get? collector with
  | some source =>
    let (a, source) := source.query
    (a, { s with sources := s.sources.modify collector fun _ => source })
  | none => (ScriptedSource.silent, s)

/-- A loop queries a source; an answer that takes too long does not count. -/
def takeQuery (s : Simulation) (loop collector : Nat) (timeout : Duration) : Simulation :=
  let (a, s) := s.querySource collector
  if a.answer.isSome ∧ a.delay ≤ timeout then
    s.putAfter a.delay (.event (.queryEnds loop a.answer))
  else s.putAfter timeout (.event (.queryEnds loop none))

/-- A read is begun. One that hangs is never heard of again. How long it takes is settled
now, what it finds when it ends. -/
def takeRead (s : Simulation) (tell : Except SourceError Int32 → Event) : Simulation :=
  let o := s.orchestrator
  let s := { s with orchestrator := { o with reads := o.reads + 1 } }
  if o.mood.hangs then s else s.putAfter o.mood.readDelay (.readEnds tell)

/-- A model is asked for a forecast. -/
def takeAsk (s : Simulation) (evaluation prediction predictor : Nat) (request : PredictRequest) :
    Simulation :=
  match s.remotePredictor? predictor with
  | none => s
  | some p =>
    let event := Event.replyArrives evaluation prediction (s.askModel p request).result
    if s.leavesOpen p then
      let timeout := min s.requestTimeout.millis s.controller.evaluationConfig.predictTimeout.millis
      s.put (s.now.timer + timeout) (.event event)
    else if s.reaches p then s.put s.now.timer (.event event)
    else s.putFirst (.event event)

/-- The request of a training is sent. -/
def takeDispatch (s : Simulation) (evaluation predictor : Nat) (request : TrainRequest) :
    Simulation :=
  match s.remotePredictor? predictor with
  | none => s
  | some p =>
    let event := Event.dispatchEnds evaluation (s.sendTraining p request).result
    if s.reaches p then s.put s.now.timer (.event event) else s.putFirst (.event event)

/-- The report of a training is awaited. -/
def takeAwait (s : Simulation) (predictor round : Nat) : Simulation :=
  match s.remotePredictor? predictor with
  | none => s
  | some p =>
    match (s.script p.key).report with
    | some bs => s.put s.now.timer (.event (.trainingEnds predictor round (.bytes bs)))
    | none =>
      s.put (s.now.timer + s.trainingTimeout.millis)
        (.event (.trainingEnds predictor round .nothing))

/-- A count is set. -/
def takeSet (s : Simulation) (evaluation : Nat) (n : Int32) : Simulation :=
  let (answer, orchestrator) := s.orchestrator.set n
  { s with orchestrator }.putFirst (.event (.goalSet evaluation answer))

/-- Take a call of the controller. -/
def take (s : Simulation) : Call → Simulation
  | .wake due e => s.put (max due s.now.timer) (.event e)
  | .query loop collector timeout => s.takeQuery loop collector timeout
  | .ask evaluation prediction predictor request =>
    s.takeAsk evaluation prediction predictor request
  | .dispatch evaluation predictor request => s.takeDispatch evaluation predictor request
  | .awaitReport predictor round => s.takeAwait predictor round
  | .countForPrediction evaluation prediction =>
    s.takeRead (.predictionCount evaluation prediction)
  | .countForGoal evaluation => s.takeRead (.goalCount evaluation)
  | .setCount evaluation n => s.takeSet evaluation n
  | .journal _ => s

/-! ## Letting time pass -/

/-- Do something with the controller and take its calls. -/
def perform {α : Type} (s : Simulation) (f : Controller → α × Controller) : α × Simulation :=
  let (a, controller, calls) := s.controller.perform s.now f
  (a, calls.foldl take { s with controller })

/-- Do something with the controller that has no result. -/
def act (s : Simulation) (f : Controller → Controller) : Simulation :=
  (s.perform fun c => ((), f c)).2

/-- A metric disappears from the store. -/
def deleteMetric (s : Simulation) (key : Option String) : Simulation :=
  match key with
  | some k => s.act fun c => (c.eraseFrom .metrics k).2
  | none => s

/-- What a read finds when it ends. -/
def endRead (s : Simulation) : Except SourceError Int32 × Simulation :=
  let o := s.orchestrator
  (o.mood.readAnswer o.replicas, s.deleteMetric o.mood.deletesMetric)

def occur (s : Simulation) : Occurrence → Simulation
  | .event e => s.act fun c => c.handle e
  | .readEnds tell =>
    let (count, s) := s.endRead
    s.act fun c => c.handle (tell count)

/-- Let the next thing happen, if it happens by this time. -/
def next? (s : Simulation) (limit : Nat) : Option Simulation :=
  (s.queue.next? limit).map fun ((due, x), queue) =>
    { s with queue, now := { s.now with timer := max s.now.timer due } }.occur x

/-- Let things happen until this time, or until what is waited for is there; no more than
so many. -/
def runSome (limit : Nat) (done : Simulation → Bool) : Nat → Simulation → Simulation
  | 0, s => s
  | n + 1, s =>
    if done s then s
    else
      match s.next? limit with
      | none => s
      | some s => runSome limit done n s

/-- A bound on what can happen by some time: at each millisecond every loop is busy with no
more than a query or a round over all predictors. -/
def bound (s : Simulation) (limit : Nat) : Nat :=
  let c := s.controller
  let loops := c.collectionLoops.size + c.evaluationLoops.size + c.evaluations.size + 1
  (limit - s.now.timer + 1) * (16 * loops * (c.predictors.size + 1)) + s.queue.size

/-- Let time pass until `limit`. -/
def runUntil (s : Simulation) (limit : Nat) : Simulation :=
  let s := runSome limit (fun _ => false) (s.bound limit) s
  { s with now := { s.now with timer := max s.now.timer limit } }

/-- Let some time pass. -/
def pass (s : Simulation) (d : Duration) : Simulation := s.runUntil (s.now.timer + d.millis)

/-- Let time pass until something is done, but not beyond `limit`. -/
def runWhileNot (s : Simulation) (limit : Nat) (done : Simulation → Bool) : Simulation :=
  runSome limit done (s.bound limit) s

end Simulation

end PredictiveScaling
