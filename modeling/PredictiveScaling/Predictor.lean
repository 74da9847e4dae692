import PredictiveScaling.Forecast.Seasonal
import PredictiveScaling.Remote.Predictor

/-!
# Predictors

A predictor is a model set on the samples of one collector.
-/
namespace PredictiveScaling

inductive PredictorModel where
  | seasonal (params : SeasonalParams)
  | remote (predictor : RemotePredictor)

structure Predictor where
  key : String
  /-- The number of the collector whose samples it reads. -/
  collector : Nat
  model : PredictorModel

namespace Predictor

/-- The predictor for a model, if the model can be made, where products wrap. -/
def ofSpec (key : String) (spec : ModelSpec) (collector : Nat) : Except ModelFault Predictor :=
  match spec.kind with
  | .seasonal params => params.validate.map fun () => ⟨key, collector, .seasonal params⟩
  | .remote params =>
    (RemotePredictor.new key params).map fun p => ⟨key, collector, .remote p⟩

/-- The same in a build of the program. Where it stops there is no answer. -/
def ofSpec? (o : Overflow) (key : String) (spec : ModelSpec) (collector : Nat) :
    Option (Except ModelFault Predictor) :=
  match spec.kind with
  | .seasonal params => (params.validate? o).map fun _ => ofSpec key spec collector
  | .remote _ => some (ofSpec key spec collector)

def tag (p : Predictor) : String :=
  match p.model with
  | .seasonal _ => ModelKind.seasonalTag
  | .remote _ => ModelKind.remoteTag

/-- Whether it can be asked for a forecast now. -/
def isReady (p : Predictor) : Bool :=
  match p.model with
  | .seasonal _ => true
  | .remote r => r.isReady

def remote? (p : Predictor) : Option RemotePredictor :=
  match p.model with
  | .seasonal _ => none
  | .remote r => some r

/-- Change the state of a served model. -/
def modifyRemote (p : Predictor) (f : RemotePredictor → RemotePredictor) : Predictor :=
  match p.model with
  | .seasonal _ => p
  | .remote r => { p with model := .remote (f r) }

end Predictor

end PredictiveScaling
