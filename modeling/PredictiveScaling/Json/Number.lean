import PredictiveScaling.Json.Basic
import PredictiveScaling.Decimal.Binary

/-!
# Values of JSON numbers

A numeral without point and exponent is an integer while it fits 64 bits, with the one
exception of minus zero. Every other numeral is a double: as many leading digits as fit
64 bits are taken as an integer, whole digits beyond them count as zeros, digits behind
the point beyond them are dropped, and the result is scaled once by a power of ten. That
rounds twice, so it need not be the nearest double. A numeral too large for a double has
no value.
-/
namespace PredictiveScaling.Json

/-- The value of a numeral. -/
inductive Number where
  | nat (n : Nat)
  | negative (n : Nat)
  | float (x : Float)
deriving Repr

/-- The greatest significand. -/
def maxSignificand : Nat := UInt64.size - 1

/-- Take whole digits into the significand until one does not fit; the count of the rest. -/
def takeWhole (n : Nat) : List Nat → Nat × Nat
  | [] => (n, 0)
  | d :: ds => if 10 * n + d ≤ maxSignificand then takeWhole (10 * n + d) ds else (n, ds.length + 1)

/-- Take digits behind the point into the significand until one does not fit; the count of
those taken. -/
def takePart (n taken : Nat) : List Nat → Nat × Nat
  | [] => (n, taken)
  | d :: ds =>
    if 10 * n + d ≤ maxSignificand then takePart (10 * n + d) (taken + 1) ds else (n, taken)

def powerOfTen (k : Nat) : Float := Decimal.nearest (Decimal.tenTo k) 1

/-- Divide by a power of ten, at most 308 powers at a time. -/
def divPowerOfTen (x : Float) (k : Nat) : Float :=
  if k ≤ 308 then x / powerOfTen k
  else if x == 0.0 then x
  else divPowerOfTen (x / powerOfTen 308) (k - 308)
termination_by k

/-- Scale by a power of ten; too large a result is none. -/
def scale? (x : Float) (exponent : Int) : Option Float :=
  if exponent < 0 then some (divPowerOfTen x exponent.natAbs)
  else if exponent ≤ 308 then
    let y := x * powerOfTen exponent.natAbs
    if y.isInf then none else some y
  else if x == 0.0 then some x
  else none

/-- The greatest exponent that is read as a number. -/
def maxExponent : Nat := 2147483647

/-- Digits of an exponent, unless they exceed the greatest one. -/
def exponentOfDigits? (ds : List Nat) : Option Nat :=
  let n := ds.foldl (fun n d => 10 * n + d) 0
  if n ≤ maxExponent then some n else none

namespace Numeral

/-- Significand and power of ten before the exponent is looked at. -/
def scaledDigits (n : Numeral) : Nat × Int :=
  let (significand, dropped) := takeWhole 0 n.whole
  let (significand, taken) := takePart significand 0 (n.part.getD [])
  (significand, (dropped : Int) - taken)

def withSign (negative : Bool) (x : Float) : Float := if negative then -x else x

/-- The value as a double. -/
def float? (n : Numeral) : Option Float :=
  let (significand, shift) := n.scaledDigits
  let x := Decimal.nearest significand 1
  match n.exponent with
  | none => (scale? x shift).map (withSign n.negative)
  | some (minus, ds) =>
    match exponentOfDigits? ds with
    | none => if significand ≠ 0 ∧ ¬ minus then none else some (withSign n.negative 0.0)
    | some e =>
      let total : Int := shift + (if minus then -(e : Int) else e)
      let clamped := max Int32.minValue.toInt (min total maxExponent)
      (scale? x clamped).map (withSign n.negative)

/-- The value of a numeral, if it is in range. -/
def value? (n : Numeral) : Option Number :=
  match n.part, n.exponent with
  | none, none =>
    let (significand, dropped) := takeWhole 0 n.whole
    if dropped = 0 then
      if ¬ n.negative then some (.nat significand)
      else if 0 < significand ∧ significand ≤ Decimal.twoTo 63 then some (.negative significand)
      else some (.float (-(Decimal.nearest significand 1)))
    else n.float?.map .float
  | _, _ => n.float?.map .float

end Numeral

/-- A number as a double; integers are rounded to the nearest one. -/
def Number.toFloat : Number → Float
  | .nat n => Decimal.nearest n 1
  | .negative n => -(Decimal.nearest n 1)
  | .float x => x

/-- A number as an integer, unless it is a double. -/
def Number.toInt? : Number → Option Int
  | .nat n => some n
  | .negative n => some (-n)
  | .float _ => none

end PredictiveScaling.Json
