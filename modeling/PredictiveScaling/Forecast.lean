/-!
# Forecasts

What a model says about the near future of a metric.
-/
namespace PredictiveScaling

structure Forecast where
  /-- One value per future step. -/
  values : List Float
  /-- The last observed value when the forecast was made. -/
  baseline : Float
  /-- The loss that a served model reports. -/
  loss : Option Float
deriving Repr, Inhabited

end PredictiveScaling
