import PredictiveScaling.Forecast.Scalar

/-!
# Seasonal exponential smoothing

A series is described by a level, a trend and one component for each position in a
season. They are estimated from whole seasons at the start and then follow the series
point by point:

* the level moves towards the point without its seasonal component,
* the trend moves towards the change of the level,
* the component moves towards what the level leaves of the point.

A forecast continues the trend and repeats the seasonal components. All reading of the
series and of the components is by position, and a position outside of them leaves no
result; so `forecast?` has a result exactly when no position is outside.
-/
namespace PredictiveScaling

/-- Season length, horizon and the three rates. -/
structure Smoothing (α : Type) where
  seasonLength : Nat
  lookForward : Nat
  alpha : α
  beta : α
  gamma : α
deriving Repr

/-- The description of a series at one of its points. -/
structure Smoothing.Level (α : Type) where
  level : α
  trend : α
  /-- The component of each position in a season. -/
  seasonals : List α
deriving Repr

namespace Smoothing

variable {α : Type} [Scalar α]

/-- The sum of what `f` gives for `0`, …, `n - 1`. -/
def sumOver? (n : Nat) (f : Nat → Option α) : Option α :=
  ((List.range n).mapM f).map Scalar.sum

/-- The average change per step between the first two seasons. -/
def initialTrend? (series : List α) (season : Nat) : Option α := do
  let total ← sumOver? season fun i => do
    let later ← series[i + season]?
    let early ← series[i]?
    pure ((later - early) / Scalar.ofNat season)
  pure (total / Scalar.ofNat season)

/-- The average of each whole season. -/
def seasonAverages? (series : List α) (season : Nat) : Option (List α) :=
  (List.range (series.length / season)).mapM fun j =>
    (sumOver? season fun i => series[season * j + i]?).map (· / Scalar.ofNat season)

/-- The average deviation of each position from the average of its season. -/
def initialSeasonals? (series : List α) (season : Nat) : Option (List α) := do
  let averages ← seasonAverages? series season
  (List.range season).mapM fun i => do
    let total ← sumOver? (series.length / season) fun j => do
      let x ← series[season * j + i]?
      let average ← averages[j]?
      pure (x - average)
    pure (total / Scalar.ofNat (series.length / season))

/-- The description at the first point; it needs at least one whole season. -/
def initial? (series : List α) (season : Nat) : Option (Level α) :=
  if season = 0 ∨ series.length / season = 0 then none
  else do
    let seasonals ← initialSeasonals? series season
    let trend ← initialTrend? series season
    let x ← series[0]?
    let s ← seasonals[0]?
    pure { level := x - s, trend, seasonals }

/-- Follow the series to its point `x` at position `t`. -/
def follow? (p : Smoothing α) (s : Level α) (t : Nat) (x : α) : Option (Level α) := do
  let one : α := Scalar.ofNat 1
  let component ← s.seasonals[t % p.seasonLength]?
  let level := p.alpha * (x - component) + (one - p.alpha) * (s.level + s.trend)
  let trend := p.beta * (level - s.level) + (one - p.beta) * s.trend
  let component := p.gamma * (x - level) + (one - p.gamma) * component
  pure { level, trend, seasonals := s.seasonals.set (t % p.seasonLength) component }

/-- Follow the points `xs`, the first of which stands at position `t`. -/
def followAll? (p : Smoothing α) (s : Level α) (t : Nat) : List α → Option (Level α)
  | [] => some s
  | x :: xs => (follow? p s t x).bind fun s => followAll? p s (t + 1) xs

/-- The value `h + 1` steps behind the end of a series of length `length`. -/
def extrapolate? (p : Smoothing α) (s : Level α) (length h : Nat) : Option α :=
  (s.seasonals[(length + h) % p.seasonLength]?).map fun component =>
    s.level + Scalar.ofNat (h + 1) * s.trend + component

/-- The values behind the end of a series. -/
def forecast? (p : Smoothing α) (series : List α) : Option (List α) := do
  let start ← initial? series p.seasonLength
  let s ← followAll? p start 1 (series.drop 1)
  (List.range p.lookForward).mapM fun h => extrapolate? p s series.length h

end Smoothing

end PredictiveScaling
