/-!
# Readiness of served models

A served model is untrained, in training or ready, and beside that there is a flag that
says whether it may be asked for forecasts. Only reports and replies of the model change
the flag; a training that ends without a report that counts goes back to the state that
the flag tells.
-/
namespace PredictiveScaling

inductive ModelPhase where
  | untrained
  | training
  | ready
deriving DecidableEq, Repr

/-- The flag and the phase. -/
structure ModelReadiness where
  ready : Bool
  phase : ModelPhase
deriving DecidableEq, Repr

namespace ModelReadiness

/-- A model that was never trained. -/
def initial : ModelReadiness := ⟨false, .untrained⟩

/-- The phase outside of a training. -/
def restingPhase (ready : Bool) : ModelPhase := if ready then .ready else .untrained

/-- Start a training, unless one is going on. -/
def begin? (r : ModelReadiness) : Option ModelReadiness :=
  if r.phase = .training then none else some { r with phase := .training }

/-- End a training without touching the flag. -/
def abort (r : ModelReadiness) : ModelReadiness := { r with phase := restingPhase r.ready }

/-- The model says, outside of a report, that it is not trained. -/
def invalidate (r : ModelReadiness) : ModelReadiness :=
  ⟨false, if r.phase = .ready then .untrained else r.phase⟩

/-- End a training with what the report tells. -/
def finish (_ : ModelReadiness) (ready : Bool) : ModelReadiness := ⟨ready, restingPhase ready⟩

end ModelReadiness

end PredictiveScaling
