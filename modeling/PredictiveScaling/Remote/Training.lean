import PredictiveScaling.Fault

/-!
# How trainings end

A training of a served model ends with a report or without one.
-/
namespace PredictiveScaling

/-- Why a training did not succeed. -/
inductive TrainingFailure where
  /-- The report is about another model. -/
  | otherModel (key : String)
  /-- The model, or whoever tells it, gives the reason. -/
  | stated (text : String)
  /-- The report could not be received. -/
  | unreceived (cause : PredictError)
  | timedOut
deriving Repr

def TrainingFailure.message : TrainingFailure → String
  | .otherModel key => s!"training report for '{key}'"
  | .stated text => text
  | .unreceived cause => cause.message
  | .timedOut => "timed out waiting for training report"

inductive TrainingOutcome where
  /-- The model reports success. -/
  | trained (loss : Float)
  /-- The model reports that it is not trained. -/
  | rejected
  | failed (reason : TrainingFailure)
deriving Repr

def TrainingOutcome.label : TrainingOutcome → String
  | .trained _ => "trained"
  | .rejected => "rejected"
  | .failed _ => "failed"

end PredictiveScaling
