/-!
# Samples

A sample is an observed value of a metric together with the millisecond in which it was
observed, counted from the first of January 1970.
-/
namespace PredictiveScaling

structure Sample where
  value : Float
  time : Int
deriving Repr, Inhabited

end PredictiveScaling
