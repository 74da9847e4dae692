import PredictiveScaling.Duration

/-!
# Models

The closed set of forecasting models: seasonal exponential smoothing, computed here, and
a trained model served by another process. Sizes are 64-bit words.
-/
namespace PredictiveScaling

/-- Parameters of seasonal exponential smoothing. -/
structure SeasonalParams where
  seasonLength : UInt64
  lookBack : UInt64
  lookForward : UInt64
  alpha : Float
  beta : Float
  gamma : Float
deriving Repr, Inhabited

/-- Parameters of a model served by another process. -/
structure RemoteParams where
  /-- Where the model is served. -/
  address : String
  /-- Where the end of a training is reported to. -/
  reportAddress : String
  lookBack : UInt64
  lookForward : UInt64
  batchSize : UInt64
  trainSize : UInt64
  epochs : UInt64
  layers : UInt64
deriving DecidableEq, Repr, Inhabited

inductive ModelKind where
  | seasonal (params : SeasonalParams)
  | remote (params : RemoteParams)
deriving Repr, Inhabited

namespace ModelKind

def seasonalTag : String := "holt_winters"

def remoteTag : String := "remote"

/-- The tag of the model in predictor keys. -/
def tag : ModelKind → String
  | .seasonal _ => seasonalTag
  | .remote _ => remoteTag

/-- How many steps a forecast has. -/
def lookForward : ModelKind → UInt64
  | .seasonal p => p.lookForward
  | .remote p => p.lookForward

end ModelKind

/-- A model attached to a metric. -/
structure ModelSpec where
  kind : ModelKind
  needTrain : Bool
  /-- The least time between two trainings. -/
  updateInterval : Duration
deriving Repr, Inhabited

namespace ModelSpec

def tag (s : ModelSpec) : String := s.kind.tag

end ModelSpec

end PredictiveScaling
