import PredictiveScaling.Http.Routes
import PredictiveScaling.Simulation.Basic

/-!
# Actions in a simulation

What can be done to a controller in a simulation, and what can be looked at. An action
that has to wait for an answer lets time pass until it comes; one whose answer never comes
has no result.
-/
namespace PredictiveScaling.Simulation

/-- Settings of a simulation. -/
structure Setup where
  workload : Workload
  replicas : Int32
  scaler : ScalerConfig
  evaluation : EvaluationConfig
  collection : CollectionConfig
  requestTimeout : Duration
  trainingTimeout : Duration
  server : Option ModelServer

def start (x : Setup) : Simulation :=
  { controller := .new "simulation" x.workload x.scaler x.evaluation, now := ⟨0, 0⟩
    queue := .empty, sources := .empty, installed := .empty
    orchestrator := .new x.replicas, server := x.server, collection := x.collection
    requestTimeout := x.requestTimeout, trainingTimeout := x.trainingTimeout, handles := []
    registry := (Registry.empty.getOrCreate x.workload ()).2 }

/-- The time that every action takes. -/
def settlingTime : Duration := .ofMillis 1

/-- Let everything happen that is due after an action. -/
def settle (s : Simulation) : Simulation := s.pass settlingTime

/-- Let time pass on the steady clock. Where there is a server of models the timers run by
the same clock. -/
def elapse (s : Simulation) (d : Duration) : Simulation :=
  let s := if s.server.isSome then s.pass d else s
  { s with now := { s.now with steady := s.now.steady + d.millis } }

/-! ## Metrics and loops -/

def install (s : Simulation) (metric : Metric) (specs : List ModelSpec)
    (answers : List ScriptedAnswer) : Except ModelFault (List String) × Simulation :=
  let collector := s.controller.collectors.size
  let (result, s) := s.perform fun c => c.install metric specs s.collection
  match result with
  | .error e => (.error e, s)
  | .ok keys =>
    (.ok keys, { s with
      sources := s.sources.push (.new answers)
      installed := s.installed.insert metric.key (some collector) })

/-- Register a metric without a loop, on a collector with some history. Where it is shared
the registered collector keeps its source. -/
def place (s : Simulation) (metric : Metric) (history : List Sample) (spec : Option ModelSpec)
    (answers : List ScriptedAnswer) (shared : Bool) : Except ModelFault String × Simulation :=
  match (if shared then s.controller.registeredCollector? metric.key else none) with
  | some (collector, _) =>
    let (result, s) := s.perform fun c =>
      (c.appendTo collector history).place metric collector spec
    match result with
    | .error e => (.error e, s)
    | .ok key => (.ok key, { s with installed := s.installed.insert metric.key none })
  | none =>
    let collector := s.controller.collectors.size
    let (result, s) := s.perform fun c =>
      let (_, c) := c.makeCollector metric s.collection.maxSamples
      (c.appendTo collector history).place metric collector spec
    let s := { s with sources := s.sources.push (.new answers) }
    match result with
    | .error e => (.error e, s)
    | .ok key => (.ok key, { s with installed := s.installed.insert metric.key (some collector) })

def remove (s : Simulation) (metricKey : String) : Simulation := s.act fun c => c.remove metricKey

def eraseFrom (s : Simulation) (part : StorePart) (key : String) : Bool × Simulation :=
  s.perform fun c => c.eraseFrom part key

/-- Start a loop for the registered collector, if there is one. -/
def spawnCollection (s : Simulation) (key : String) (reports : Bool) : Simulation :=
  let (loop, s) := s.perform fun c =>
    match c.attachLoop key s.collection reports with
    | some (loop, c) => (some loop, c)
    | none => (none, c)
  match loop with
  | some loop => { s with handles := s.handles ++ [.collection loop] }
  | none => s

/-- Start to evaluate on every tick. -/
def spawnEvaluationLoop (s : Simulation) : Simulation :=
  let (loop, s) := s.perform Controller.spawnEvaluationLoop
  { s with handles := s.handles ++ [.evaluation loop] }

def stop (s : Simulation) (key : String) : Option Bool × Simulation :=
  s.perform fun c => c.stop key

def shutDown (s : Simulation) : Bool × Simulation := s.perform Controller.shutDown

/-- Whether each loop that was started by itself has ended. -/
def endedLoops (s : Simulation) : List Bool :=
  s.handles.map fun h =>
    match h with
    | .collection id =>
      ((s.controller.collectionLoops.get? id).map fun l => !l.isAlive).getD true
    | .evaluation id =>
      ((s.controller.evaluationLoops.get? id).map fun l => !l.isAlive).getD true

/-- How often the sources that were installed last were queried. -/
def queries (s : Simulation) : List (String × Nat) :=
  s.installed.toList.map fun (key, id) =>
    (key, ((id.bind s.sources.get?).map (·.queries)).getD 0)

/-! ## Collectors -/

def collector? (s : Simulation) (key : String) : Option Collector :=
  (s.controller.registeredCollector? key).map Prod.snd

def append (s : Simulation) (key : String) (xs : List Sample) : Option Simulation :=
  (s.controller.registeredCollector? key).map fun (id, _) => s.act fun c => c.appendTo id xs

/-- Hand out what a collector has not handed out before. -/
def send (s : Simulation) (key : String) : Option (List Sample × Simulation) :=
  (s.controller.registeredCollector? key).map fun (id, x) =>
    let (out, buffer) := x.buffer.send
    (out, s.act fun c => { c with
      collectors := c.collectors.modify id fun x => { x with buffer } })

/-- Query the source of a collector once. -/
def collect (s : Simulation) (key : String) : Option (Except SourceError Nat × Simulation) := do
  let (id, _) ← s.controller.registeredCollector? key
  let (a, s) := s.querySource id
  let answer ← a.answer
  let s := s.pass a.delay
  let x ← s.controller.collectors.get? id
  let (added, x) := x.take answer
  pure (added, s.act fun c => { c with collectors := c.collectors.modify id fun _ => x })

/-! ## Predictors -/

/-- Ask the predictor under a key for a forecast. -/
def predict (s : Simulation) (key : String) :
    Option (Except PredictError Forecast × Simulation) := do
  let (id, p) ← s.controller.registeredPredictor? key
  let buffer := s.controller.buffer p.collector
  match p.model with
  | .seasonal params => (params.predict? buffer).map fun f => (f, s)
  | .remote r =>
    match r.predictRequest buffer with
    | .error e => some (.error e, s)
    | .ok request =>
      let answer := (s.askModel r request).result
      let s := if s.leavesOpen r then s.pass s.requestTimeout else s
      let r ← s.remotePredictor? id
      let (forecast, r) := r.takeExchange request answer
      some (forecast, s.act fun c => c.putRemote id r c.sockets)

/-- Train the predictor under a key; whether there is a report to wait for. -/
def train (s : Simulation) (key : String) : Option (Except PredictError Bool × Simulation) := do
  let (id, _) ← s.controller.registeredPredictor? key
  let (begun, s) := s.perform fun c => c.beginTraining id
  match begun with
  | .error e => some (.error e, s)
  | .ok none => some (.ok false, s)
  | .ok (some d) =>
    let r ← s.remotePredictor? id
    let sent := (s.sendTraining r d.request).result
    some (sent.map fun () => true, s.act fun c => c.endDispatch id d false sent)

/-! ## Evaluating and scaling -/

/-- A time by which a round has ended if it ends at all. -/
def roundLimit (s : Simulation) : Nat :=
  let wait := s.orchestrator.mood.readDelay.millis + s.requestTimeout.millis +
    s.controller.evaluationConfig.predictTimeout.millis + 1
  s.now.timer + wait * (s.controller.predictors.size + 2)

/-- What a round came to. -/
def report? (s : Simulation) (evaluation : Nat) : Option EvaluationReport :=
  (s.controller.evaluations.get? evaluation).bind Evaluation.report?

/-- Run one round. -/
def evaluate (s : Simulation) : Option (EvaluationReport × Simulation) :=
  let id := s.controller.nextEvaluation
  let s := s.act fun c => c.beginEvaluation none
  let s := s.runWhileNot s.roundLimit fun s => (s.report? id).isSome
  (s.report? id).map fun report => (report, s)

/-- Read the current count. -/
def readCount (s : Simulation) : Option (Except SourceError Int32 × Simulation) :=
  let o := s.orchestrator
  let s := { s with orchestrator := { o with reads := o.reads + 1 } }
  if o.mood.hangs then none else some (s.pass o.mood.readDelay).endRead

/-- Attempt something with the scaler. -/
def attempt (s : Simulation) (f : Scaler → ClientAnswers → Nat → Scaler × Attempt) :
    Option (Except ScaleError ScaleAction × Simulation) :=
  s.readCount.map fun (count, s) =>
    let answers : ClientAnswers := ⟨count, s.orchestrator.mood.setAnswer⟩
    let (scaler, attempt) := f s.controller.scaler answers s.now.steady
    let orchestrator := match attempt.issued with
      | some n => (s.orchestrator.set n).2
      | none => s.orchestrator
    (attempt.result, { s with orchestrator }.act fun c => { c with scaler })

def upTo (s : Simulation) (n : Int32) : Option (Except ScaleError ScaleAction × Simulation) :=
  s.attempt fun scaler answers _ => scaler.upTo answers n

def downTo (s : Simulation) (n : Int32) : Option (Except ScaleError ScaleAction × Simulation) :=
  s.attempt fun scaler answers _ => scaler.downTo answers n

/-- Move towards a target; it is shown as soon as the current count is known. -/
def applyTarget (s : Simulation) (n : Int32) (scaleDown : ScaleDown) :
    Option (Except ScaleError ScaleAction × Simulation) :=
  (s.attempt fun scaler answers now => scaler.applyTarget answers now n scaleDown).map
    fun (result, t) =>
      (result,
        if s.orchestrator.mood.readFault.isSome then t
        else t.act fun c => c.count fun x => x.setTarget c.workload.text n)

/-- The counts that a forecast asks for. -/
def modelCounts (s : Simulation) (f : Forecast) (target : Float) :
    Option (Except ScaleError (List Int32) × Simulation) :=
  let config := s.controller.scaler.config
  if config.baseStrategy.readsCurrent then
    s.readCount.map fun (count, s) =>
      ((count.map fun n => Scaler.modelCounts config f n target).mapError .client, s)
  else some (.ok (Scaler.modelCounts config f 0 target), s)

/-! ## Health and what is shown -/

def changeHealth (s : Simulation) (f : Int64 → HealthRegistry → HealthRegistry) : Simulation :=
  s.act fun c => { c with health := f c.seconds c.health }

/-- Make a state for a workload, unless it has one. -/
def addWorkload (s : Simulation) (w : Workload) : Simulation :=
  { s with registry := (s.registry.getOrCreate w ()).2 }

/-- What is registered for the controller's own workload. -/
def ownStatus (s : Simulation) : Http.WorkloadStatus :=
  let c := s.controller
  { workload := c.workload
    collectors := c.store.collectors.toList.map fun (key, id) => ⟨key, (c.buffer id).size⟩
    predictors := c.store.predictors.toList.filterMap fun (key, id) =>
      (c.predictors.get? id).map fun p => ⟨key, p.tag, p.isReady⟩ }

def workloadStatuses (s : Simulation) : List Http.WorkloadStatus :=
  s.registry.toList.map fun (w, _) =>
    if w = s.controller.workload then s.ownStatus else ⟨w, [], []⟩

def respond (s : Simulation) (request : Http.Request) : Http.Response :=
  Http.respond ⟨s.controller.health, s.workloadStatuses⟩ request

end PredictiveScaling.Simulation
