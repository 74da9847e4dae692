import PredictiveScaling.Controller.Collection

/-!
# Installing and removing metrics

Installing a metric makes a collector with a loop, and a predictor for each model. All
predictors are made before anything is put into the store. A metric that is installed
under the same key is removed first.
-/
namespace PredictiveScaling.Controller

/-! ## Signals -/

/-- The loop that a key names no longer can be told to stop otherwise; tell it now. -/
def signalIfAny (c : Controller) (loop : Option Nat) : Controller :=
  match loop with
  | some id => c.signalCollection id
  | none => c

/-- Put in a loop that can be told to stop. The one that was there before is told now. -/
def putStop (c : Controller) (key : String) (loop : Nat) : Controller :=
  let old := c.store.stops.find? key
  { c with store := { c.store with stops := c.store.stops.insert key loop } }.signalIfAny old

/-- Tell the loop under a key to stop; whether it is alive, if there is one. -/
def stop (c : Controller) (key : String) : Option Bool × Controller :=
  match c.store.stops.find? key with
  | none => (none, c)
  | some id =>
    (some (((c.collectionLoops.get? id).map CollectionLoop.isAlive).getD false),
      c.signalCollection id)

/-- The loops that are alive. -/
def aliveCollections (c : Controller) : List Nat :=
  (c.collectionLoops.indexed.filter fun (_, l) => l.isAlive).map Prod.fst

/-! ## Metrics -/

/-- Remove a metric with everything that belongs to it. -/
def remove (c : Controller) (metricKey : String) : Controller :=
  let loop := c.store.stops.find? metricKey
  { c with store := c.store.remove metricKey }.signalIfAny loop

/-- The predictors for some models on one collector. -/
def makePredictors (metric : Metric) (collector : Nat) :
    List ModelSpec → Except ModelFault (List (ModelSpec × Predictor))
  | [] => .ok []
  | spec :: specs =>
    match Predictor.ofSpec (metric.predictorKey spec.tag) spec collector with
    | .error e => .error e
    | .ok p => (makePredictors metric collector specs).map fun ps => (spec, p) :: ps

/-- Number predictors in the order in which they are put into an arena that has `n`. -/
def installedModels (n : Nat) : List (ModelSpec × Predictor) → List InstalledModel
  | [] => []
  | (spec, p) :: made => ⟨p.key, spec, n⟩ :: installedModels (n + 1) made

/-- Install a metric with its models: the keys of its predictors. -/
def install (c : Controller) (metric : Metric) (specs : List ModelSpec)
    (config : CollectionConfig) : Except ModelFault (List String) × Controller :=
  let c := if c.store.metrics.contains metric.key then c.remove metric.key else c
  let collector := c.collectors.size
  match makePredictors metric collector specs with
  | .error e => (.error e, c)
  | .ok made =>
    let models := installedModels c.predictors.size made
    let old := c.store.stops.find? metric.key
    let c := { c with
      collectors := c.collectors.push (.new metric config.maxSamples)
      predictors := c.predictors.append (made.map Prod.snd) }
    let (loop, c) := c.spawnCollection (.new collector metric.key config true)
    let c := { c with store := c.store.install metric collector loop models }.signalIfAny old
    (.ok (models.map InstalledModel.key), c)

/-! ## Parts -/

/-- Take an entry out of one map of the store; whether there was one. A loop that cannot be
told to stop any more is told now. -/
def eraseFrom (c : Controller) (part : StorePart) (key : String) : Bool × Controller :=
  let loop := if part = .stops then c.store.stops.find? key else none
  let (found, store) := c.store.eraseFrom part key
  (found, { c with store }.signalIfAny loop)

/-- Make a collector that is not registered. -/
def makeCollector (c : Controller) (metric : Metric) (maxSamples : Nat) : Nat × Controller :=
  (c.collectors.size, { c with collectors := c.collectors.push (.new metric maxSamples) })

def appendTo (c : Controller) (collector : Nat) (xs : List Sample) : Controller :=
  { c with collectors := c.collectors.modify collector fun x => x.append xs }

/-- Register a metric and at most one model on a collector, without a loop: the key of the
predictor, or of the metric where there is none. -/
def place (c : Controller) (metric : Metric) (collector : Nat) (spec : Option ModelSpec) :
    Except ModelFault String × Controller :=
  match makePredictors metric collector spec.toList with
  | .error e => (.error e, c)
  | .ok made =>
    let models := installedModels c.predictors.size made
    let store := models.foldl Store.putModel { c.store with
      metrics := c.store.metrics.insert metric.key metric
      collectors := c.store.collectors.insert metric.key collector }
    (.ok ((models.head?.map InstalledModel.key).getD metric.key), { c with
      store, predictors := c.predictors.append (made.map Prod.snd) })

/-- Start a loop for the collector that is registered under a key: its number. -/
def attachLoop (c : Controller) (key : String) (config : CollectionConfig) (reports : Bool) :
    Option (Nat × Controller) :=
  (c.registeredCollector? key).map fun (id, x) =>
    let (loop, c) := c.spawnCollection (.new id x.key config reports)
    (loop, c.putStop key loop)

end PredictiveScaling.Controller
