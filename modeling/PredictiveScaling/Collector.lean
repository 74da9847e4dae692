import PredictiveScaling.Clock
import PredictiveScaling.Fault
import PredictiveScaling.Metric
import PredictiveScaling.Sample.Buffer
import PredictiveScaling.Schedule

/-!
# Collectors

A collector owns the samples of one metric. A loop queries the metric's source for it, one
query after the other, until the collector is no longer the registered one, the loop is
told to stop or the process shuts down.
-/
namespace PredictiveScaling

structure Collector where
  metric : Metric
  buffer : Buffer

namespace Collector

def new (metric : Metric) (maxSamples : Nat) : Collector := ⟨metric, .empty maxSamples⟩

def key (c : Collector) : String := c.metric.key

def append (c : Collector) (xs : List Sample) : Collector :=
  { c with buffer := c.buffer.append xs }

/-- Take in the answer to a query; one that failed changes nothing. The result says how
many samples came in. -/
def take (c : Collector) (answer : Except SourceError (List Sample)) :
    Except SourceError Nat × Collector :=
  match answer with
  | .ok xs => (.ok xs.length, c.append xs)
  | .error e => (.error e, c)

end Collector

/-! ## Loops -/

/-- How far a collection loop has come. -/
inductive CollectionPhase where
  /-- It has not run yet. -/
  | starting
  /-- It waits for its ticker or for a signal. -/
  | waiting
  /-- Its query has not ended. -/
  | querying
  | ended
deriving DecidableEq, Repr

structure CollectionLoop where
  /-- The number of the collector it works for. -/
  collector : Nat
  /-- The key of that collector. -/
  key : String
  queryTimeout : Duration
  ticker : Ticker
  /-- Whether it reports its health. -/
  reports : Bool
  /-- Whether it was told to stop, or the process to shut down. -/
  signalled : Bool
  phase : CollectionPhase
deriving DecidableEq, Repr

namespace CollectionLoop

/-- A loop that will start at some time after `now`. -/
def new (collector : Nat) (key : String) (config : CollectionConfig) (reports : Bool) :
    CollectionLoop :=
  { collector, key, queryTimeout := config.queryTimeout, ticker := .start config.interval 0
    reports, signalled := false, phase := .starting }

/-- Whether signals still reach it. -/
def isAlive (l : CollectionLoop) : Bool := l.phase ≠ .ended

/-- The text for a query that took too long. -/
def timeoutMessage : String := "metric query timed out"

end CollectionLoop

end PredictiveScaling
