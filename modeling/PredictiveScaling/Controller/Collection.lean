import PredictiveScaling.Controller.Basic

/-!
# Collecting

What a collection loop does when something happens to it. It starts a query only when its
ticker is due and its collector is the registered one; when it ends, its health report goes
unless another collector is registered under the key, whose loop has it now.
-/
namespace PredictiveScaling.Controller

/-- Wait for the ticker, or for a signal if there is none yet. -/
def awaitCollectionTick (c : Controller) (id : Nat) (l : CollectionLoop) : Controller :=
  let c := c.setCollectionLoop id { l with phase := .waiting }
  let c := if l.signalled then c.soon (.collectionSignalled id) else c
  c.call (.wake l.ticker.due (.collectionDue id))

def endCollection (c : Controller) (id : Nat) (l : CollectionLoop) : Controller :=
  let c := c.setCollectionLoop id { l with phase := .ended }
  if l.reports ∧ ¬ c.store.collectors.contains l.key then
    c.forgetHealth (collectorComponent l.key)
  else c

/-- Run for the first time. A ticker without a period breaks the loop. -/
def startCollection (c : Controller) (id : Nat) (l : CollectionLoop) : Controller :=
  let c :=
    if l.reports then c.reportHealthy (collectorComponent l.key) else c
  if l.ticker.period.millis = 0 then c.setCollectionLoop id { l with phase := .ended }
  else c.awaitCollectionTick id { l with ticker := .start l.ticker.period c.now.timer }

/-- The ticker is due. -/
def tickCollection (c : Controller) (id : Nat) (l : CollectionLoop) : Controller :=
  let l := { l with ticker := l.ticker.next c.now.timer }
  if c.store.isRegistered l.key l.collector then
    (c.setCollectionLoop id { l with phase := .querying }).call
      (.query id l.collector l.queryTimeout)
  else c.endCollection id l

/-- What went wrong with a query, if something did. -/
def queryFailure? : Option (Except SourceError (List Sample)) → Option String
  | none => some CollectionLoop.timeoutMessage
  | some (.error e) => some e.message
  | some (.ok _) => none

/-- Put what a query brought into the collector. -/
def takeAnswer (c : Controller) (collector : Nat)
    (answer : Option (Except SourceError (List Sample))) : Controller :=
  match answer with
  | none => c
  | some a => { c with collectors := c.collectors.modify collector fun x => (x.take a).2 }

/-- The query has ended. -/
def endQuery (c : Controller) (id : Nat) (l : CollectionLoop)
    (answer : Option (Except SourceError (List Sample))) : Controller :=
  let failure := queryFailure? answer
  let c := (c.takeAnswer l.collector answer).count fun t => t.countCollection failure.isSome
  let c :=
    if l.reports then
      match failure with
      | none => c.reportHealthy (collectorComponent l.key)
      | some message => c.reportDegraded (collectorComponent l.key) message
    else c
  c.awaitCollectionTick id l

/-- Tell a loop to stop, or that the process shuts down. It takes notice when it waits. -/
def signalCollection (c : Controller) (id : Nat) : Controller :=
  match c.collectionLoops.get? id with
  | none => c
  | some l =>
    let c := c.setCollectionLoop id { l with signalled := true }
    if l.phase = .waiting then c.soon (.collectionSignalled id) else c

/-- Start a loop for a collector. -/
def spawnCollection (c : Controller) (l : CollectionLoop) : Nat × Controller :=
  let id := c.collectionLoops.size
  (id, { c with collectionLoops := c.collectionLoops.push l }.soon (.collectionStarts id))

end PredictiveScaling.Controller
