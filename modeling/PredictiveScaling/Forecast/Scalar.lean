/-!
# Scalars

The numbers in which forecasts and replica counts are computed. The formulas are written
once over this class; running programs use doubles, and what the formulas achieve but for
rounding can be stated of the rationals.
-/
namespace PredictiveScaling

/-- Numbers with the operations that the formulas need. -/
class Scalar (α : Type) extends Add α, Sub α, Mul α, Div α where
  ofNat : Nat → α
  ofInt : Int → α
  /-- What a sum starts from. -/
  sumStart : α
  isZero : α → Bool
  /-- The least count not below the number: none for what is not positive, and no more than
  the greatest count. -/
  ceilCount : α → Int32

namespace Scalar

variable {α : Type} [Scalar α]

/-- The sum from left to right. -/
def sum (xs : List α) : α := xs.foldl (· + ·) sumStart

end Scalar

/-- The least count not below a positive double, and no more than the greatest count: the
whole part, and one more where something is left. -/
def ceilWord (x : Float) : Int32 :=
  let whole := x.toUInt32.toNat
  Int32.ofNat (min (if Float.ofNat whole < x then whole + 1 else whole) 2147483647)

/-- Doubles: a sum starts from minus zero, which changes no number it is added to. -/
instance : Scalar Float where
  ofNat n := Float.ofNat n
  ofInt i := Float.ofInt i
  sumStart := -0.0
  isZero x := x == 0.0
  ceilCount x := if x.isNaN || x ≤ 0.0 then 0 else ceilWord x

end PredictiveScaling
