import PredictiveScaling.Forecast
import PredictiveScaling.Forecast.Smoothing
import PredictiveScaling.Model
import PredictiveScaling.Fault
import PredictiveScaling.Sample.Buffer

/-!
# Forecasts by seasonal smoothing

Which parameters are accepted, and the forecast from the last samples of a buffer. The
double of the season length and the position of the horizon are taken in 64-bit words.
-/
namespace PredictiveScaling

/-- What a build of the program does where a product or a sum is beyond all words. -/
inductive Overflow where
  /-- It goes on with what is left of the number. -/
  | wraps
  /-- It stops. -/
  | stops
deriving DecidableEq, Repr

namespace SeasonalParams

/-- A rate has to lie between 0 and 1. -/
def checkRate (name : String) (value : Float) : Except ModelFault Unit :=
  if 0.0 ≤ value && value ≤ 1.0 then .ok () else .error (.outsideUnit name value)

/-- Whether a model with these parameters can be made, where products wrap. -/
def validate (p : SeasonalParams) : Except ModelFault Unit :=
  if p.seasonLength = 0 then .error .noSeason
  else if p.lookForward = 0 then .error .noHorizon
  else if p.lookBack < 2 * p.seasonLength then .error (.shortHistory p.lookBack p.seasonLength)
  else if p.lookBack % p.seasonLength ≠ 0 then .error (.unevenHistory p.lookBack p.seasonLength)
  else do
    checkRate "alpha" p.alpha
    checkRate "beta" p.beta
    checkRate "gamma" p.gamma

/-- Whether the checks get as far as the double of the season, and that is beyond all words. -/
def overflows (p : SeasonalParams) : Bool :=
  p.seasonLength ≠ 0 ∧ p.lookForward ≠ 0 ∧ UInt64.size ≤ 2 * p.seasonLength.toNat

/-- The checks in a build of the program. Where it stops there is no answer. -/
def validate? (p : SeasonalParams) (o : Overflow) : Option (Except ModelFault Unit) :=
  if o = .stops ∧ p.overflows then none else some p.validate

/-- The number of steps from the end of the samples to the horizon. None is left where the
position of the horizon wraps. -/
def steps (p : SeasonalParams) : Nat := (p.lookBack + p.lookForward).toNat - p.lookBack.toNat

def smoothing (p : SeasonalParams) : Smoothing Float :=
  { seasonLength := p.seasonLength.toNat
    lookForward := p.steps
    alpha := p.alpha
    beta := p.beta
    gamma := p.gamma }

/-- The forecast from the last samples, where sums wrap. Where a position outside of the samples
would be read there is no answer at all. -/
def predict? (p : SeasonalParams) (b : Buffer) : Option (Except PredictError Forecast) :=
  match b.values? p.lookBack.toNat with
  | none => some (.error (.insufficientData b.size p.lookBack.toNat))
  | some series =>
    (p.smoothing.forecast? series).map fun values =>
      .ok { values, baseline := series.getLast?.getD 0.0, loss := none }

/-- The forecast in a build of the program. One that stops has no answer where it would get to a
horizon at a position beyond all words. -/
def predictIn? (o : Overflow) (p : SeasonalParams) (b : Buffer) :
    Option (Except PredictError Forecast) :=
  if o = .stops ∧ p.lookBack.toNat ≤ b.size ∧
      UInt64.size ≤ p.lookBack.toNat + p.lookForward.toNat then none
  else p.predict? b

end SeasonalParams

end PredictiveScaling
