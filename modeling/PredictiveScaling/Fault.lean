import PredictiveScaling.Decimal.Layout

/-!
# Faults

What can go wrong, by cause. Each kind of fault has one function that gives its text.
Where the text is not this library's own (a system call, a document that does not parse)
the cause keeps only what is shown.
-/
namespace PredictiveScaling

/-- Failure to get an answer from a metric source or an orchestrator. -/
inductive SourceError where
  | request (detail : String)
  | response (detail : String)
  | notFound (what : String)
deriving DecidableEq, Repr

def SourceError.message : SourceError → String
  | .request detail => s!"request failed: {detail}"
  | .response detail => s!"unexpected response: {detail}"
  | .notFound what => s!"workload not found: {what}"

/-- Parts of a workload's registered state that do not fit together. -/
inductive SyncFault where
  | noModel (key : String)
  | malformedKey (key : String)
  | noMetric (key : String)
  | metricGone (key : String)
  | stated (text : String)
deriving DecidableEq, Repr

def SyncFault.message : SyncFault → String
  | .noModel key => s!"no model registered for '{key}'"
  | .malformedKey key => s!"malformed predictor key '{key}'"
  | .noMetric key => s!"no metric registered for '{key}'"
  | .metricGone key => s!"metric '{key}' disappeared during the tick"
  | .stated text => text

/-- A failed exchange with a served model. -/
inductive TransportFault where
  /-- The system refused to connect, bind, read or write. -/
  | system (detail : String)
  /-- What arrived is not a message. -/
  | malformed
  /-- The connection ended before anything arrived. -/
  | closedWithoutMessage
  /-- Somebody else is waiting for a report on this path. -/
  | awaitingReport (path : String)
  /-- The model said what is wrong. -/
  | stated (text : String)
deriving DecidableEq, Repr

def TransportFault.message : TransportFault → String
  | .system detail => detail
  | .malformed => "malformed payload"
  | .closedWithoutMessage => "connection closed without a message"
  | .awaitingReport path => s!"completion address {path} is already awaiting a report"
  | .stated text => text

/-- A model that cannot be used. -/
inductive ModelFault where
  | unknownType (type : String)
  | missingAttribute (name : String)
  | badAttribute (name value : String)
  | noSeason
  | noHorizon
  | shortHistory (lookBack season : UInt64)
  | unevenHistory (lookBack season : UInt64)
  | outsideUnit (name : String) (value : Float)
  | noWindow
  | shortTraining (trainSize lookBack : UInt64)
  | stated (text : String)
deriving Repr

def ModelFault.message : ModelFault → String
  | .unknownType type => s!"unknown model type '{type}'"
  | .missingAttribute name => s!"missing attribute '{name}'"
  | .badAttribute name value => s!"attribute '{name}' has invalid value '{value}'"
  | .noSeason => "season length must be positive"
  | .noHorizon => "look_forward must be positive"
  | .shortHistory lookBack season =>
    s!"look_back {lookBack} must cover at least two seasons of {season}"
  | .unevenHistory lookBack season =>
    s!"look_back {lookBack} is not a multiple of season length {season}"
  | .outsideUnit name value =>
    name ++ " must lie in [0, 1], got " ++ Decimal.Layout.plain.render value
  | .noWindow => "look_back and look_forward must be positive"
  | .shortTraining trainSize lookBack =>
    s!"train_size {trainSize} is smaller than look_back {lookBack}"
  | .stated text => text

/-- Faults of predictors and of the evaluation. -/
inductive PredictError where
  | insufficientData (count need : Nat)
  | modelNotReady
  | trainingInProgress
  | configurationSync (cause : SyncFault)
  | source (cause : SourceError)
  | transport (cause : TransportFault)
  | invalidModel (cause : ModelFault)
  | timeout
deriving Repr

namespace PredictError

def message : PredictError → String
  | .insufficientData count need => s!"insufficient data: have {count} samples, need {need}"
  | .modelNotReady => "model is not ready to predict"
  | .trainingInProgress => "a training round trip is already in flight"
  | .configurationSync cause => s!"configuration out of sync: {cause.message}"
  | .source cause => s!"source error: {cause.message}"
  | .transport cause => s!"model transport error: {cause.message}"
  | .invalidModel cause => s!"invalid model: {cause.message}"
  | .timeout => "operation timed out"

/-- Expected while a model warms up. -/
def isTransient : PredictError → Bool
  | .insufficientData .. | .modelNotReady | .trainingInProgress => true
  | _ => false

end PredictError

/-- Faults of scale commands. -/
inductive ScaleError where
  | notAbove (target current : Int32)
  | notBelow (target current : Int32)
  | client (cause : SourceError)
deriving DecidableEq, Repr

def ScaleError.message : ScaleError → String
  | .notAbove target current => s!"target replicas {target} is not above current {current}"
  | .notBelow target current => s!"target replicas {target} is not below current {current}"
  | .client cause => cause.message

end PredictiveScaling
