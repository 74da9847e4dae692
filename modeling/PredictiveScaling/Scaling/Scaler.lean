import PredictiveScaling.Fault
import PredictiveScaling.Forecast
import PredictiveScaling.Metric
import PredictiveScaling.Replicas.Base
import PredictiveScaling.Replicas.Fold
import PredictiveScaling.Scaling.Action

/-!
# The scaler

The scaler of a workload decides what to do about a target once the current replica count
is known. Going up happens at once. Going down is held back until the drop is large
enough and the target has stayed below the current count for long enough; the moment
since when it has is the only thing a scaler remembers.

A decision either settles the attempt or names one count to set. `attempt` puts the two
calls to the orchestrator around it.
-/
namespace PredictiveScaling

/-- Bounds and strategies of a workload. -/
structure ScalerConfig where
  minReplicas : Int32
  maxReplicas : Int32
  baseStrategy : BaseStrategy
  modelStrategy : ModelStrategy
  peakStrategy : PeakStrategy
deriving DecidableEq, Repr

instance : Inhabited ScalerConfig := ⟨1, 10, .steady, .max, .selectMax⟩

/-- What is left to do once the current count is known. -/
inductive Decision where
  /-- Nothing is set. -/
  | settled (result : Except ScaleError ScaleAction)
  /-- This count is set, and if that succeeds the action is the result. -/
  | set (count : Int32) (action : ScaleAction)

/-- How an attempt ended, and the count it asked the orchestrator to set. -/
structure Attempt where
  result : Except ScaleError ScaleAction
  issued : Option Int32

/-- What the orchestrator answers to the two calls of an attempt. -/
structure ClientAnswers where
  count : Except SourceError Int32
  set : Except SourceError Unit

namespace ScalerConfig

/-- Go up to `n`. -/
def raise (c : ScalerConfig) (current n : Int32) : Decision :=
  if n ≤ current then .settled (.error (.notAbove n current))
  else if c.maxReplicas < n then .settled (.ok (.refused n c.maxReplicas))
  else .set n (.scaledUp current n)

/-- Go down to `n`. -/
def lower (c : ScalerConfig) (current n : Int32) : Decision :=
  if current ≤ n then .settled (.error (.notBelow n current))
  else if n < c.minReplicas then .settled (.ok (.refused n c.minReplicas))
  else .set n (.scaledDown current n)

/-- The part of the current count that a scale-down takes away. The difference is a 32-bit
word. -/
def relativeDrop (current target : Int32) : Float :=
  Float.ofInt (current - target).toInt / Float.ofInt current.toInt

end ScalerConfig

/-- A scaler: its settings, and since when the target has stayed below the current count. -/
structure Scaler where
  config : ScalerConfig
  belowSince : Option Nat
deriving Repr

namespace Scaler

def new (config : ScalerConfig) : Scaler := ⟨config, none⟩

def resetWindow (s : Scaler) : Scaler := { s with belowSince := none }

/-- Move towards a target that was computed for the workload, at time `now`. -/
def decide (s : Scaler) (now : Nat) (scaleDown : ScaleDown) (current target : Int32) :
    Scaler × Decision :=
  if current < target then (s.resetWindow, s.config.raise current target)
  else
    let target := max target s.config.minReplicas
    if current ≤ target then (s.resetWindow, .settled (.ok (.unchanged current)))
    else if ScalerConfig.relativeDrop current target < scaleDown.threshold then
      (s.resetWindow, .settled (.ok (.unchanged current)))
    else
      let since := s.belowSince.getD now
      if now - since < scaleDown.duration.millis then
        ({ s with belowSince := some since }, .settled (.ok (.deferred target current)))
      else (s.resetWindow, s.config.lower current target)

/-- Carry a decision out. -/
def conclude (set : Except SourceError Unit) : Decision → Attempt
  | .settled result => ⟨result, none⟩
  | .set count action =>
    match set with
    | .ok () => ⟨.ok action, some count⟩
    | .error e => ⟨.error (.client e), some count⟩

/-- Read the count, decide, and set a count if the decision says so. -/
def attempt (s : Scaler) (answers : ClientAnswers) (decide : Int32 → Scaler × Decision) :
    Scaler × Attempt :=
  match answers.count with
  | .error e => (s, ⟨.error (.client e), none⟩)
  | .ok current =>
    let (s, decision) := decide current
    (s, conclude answers.set decision)

def upTo (s : Scaler) (answers : ClientAnswers) (n : Int32) : Scaler × Attempt :=
  s.attempt answers fun current => (s, s.config.raise current n)

def downTo (s : Scaler) (answers : ClientAnswers) (n : Int32) : Scaler × Attempt :=
  s.attempt answers fun current => (s, s.config.lower current n)

def applyTarget (s : Scaler) (answers : ClientAnswers) (now : Nat) (target : Int32)
    (scaleDown : ScaleDown) : Scaler × Attempt :=
  s.attempt answers fun current => s.decide now scaleDown current target

/-- The counts that a forecast asks for, given the current count where it is needed. -/
def modelCounts (c : ScalerConfig) (f : Forecast) (current : Int32) (target : Float) :
    List Int32 :=
  c.baseStrategy.counts f.values f.baseline current target

end Scaler

end PredictiveScaling
