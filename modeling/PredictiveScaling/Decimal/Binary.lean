import PredictiveScaling.Decimal.Power

/-!
# Doubles as integers times powers of two

A finite double is a whole number times a power of two, and each quotient of natural
numbers has a nearest double; of two nearest ones the one with the even significand is
taken. Both directions go through the bits, so nothing here depends on how a double is
added or multiplied.
-/
namespace PredictiveScaling.Decimal

/-- What the bits of a double stand for: the value of `finite` is
`significand * 2 ^ exponent`, with a minus when `negative`. -/
inductive Value where
  | finite (negative : Bool) (significand : Nat) (exponent : Int)
  | infinite (negative : Bool)
  | nan
deriving DecidableEq, Repr

/-- Read 64 bits: one sign, eleven of exponent, fifty-two of significand. -/
def valueOfBits (bits : UInt64) : Value :=
  let n := bits.toNat
  let negative : Bool := n / twoTo 63 = 1
  let exponent : Nat := n / twoTo 52 % 2048
  let fraction := n % twoTo 52
  if exponent = 2047 then (if fraction = 0 then .infinite negative else .nan)
  else if exponent = 0 then .finite negative fraction (-1074)
  else .finite negative (twoTo 52 + fraction) ((exponent : Int) - 1075)

def valueOf (x : Float) : Value := valueOfBits x.toBits

/-- Neither infinite nor a NaN. -/
def isFinite (x : Float) : Bool :=
  match valueOf x with
  | .finite .. => true
  | _ => false

/-- The whole part of a double as a signed word of 64 bits. Beyond all words it is the least or the
greatest one, and of a NaN it is 0. -/
def wholeWord (x : Float) : Int :=
  match valueOf x with
  | .finite negative significand exponent =>
    let whole := if 0 ≤ exponent then significand * twoTo exponent.toNat
      else significand / twoTo (-exponent).toNat
    max Int64.minValue.toInt (min (if negative then -(whole : Int) else whole) Int64.maxValue.toInt)
  | .infinite negative => if negative then Int64.minValue.toInt else Int64.maxValue.toInt
  | .nan => 0

/-- The whole number nearest to a quotient; a half goes to the even neighbour. -/
def roundDiv (num den : Nat) : Nat :=
  let q := num / den
  let r := num % den
  if 2 * r < den then q else if den < 2 * r then q + 1 else if q % 2 = 0 then q else q + 1

/-- The bits of the double nearest to `num / den`, for a positive `den`. -/
def nearestBits (num den : Nat) : UInt64 :=
  if num = 0 then 0
  else
    let k : Int := (num.log2 : Int) - den.log2
    let atLeast : Bool := if 0 ≤ k then den * twoTo k.toNat ≤ num else den ≤ num * twoTo (-k).toNat
    let magnitude := if atLeast then k else k - 1
    let exponent := max (magnitude - 52) (-1074)
    let significand :=
      if 0 ≤ exponent then roundDiv num (den * twoTo exponent.toNat)
      else roundDiv (num * twoTo (-exponent).toNat) den
    let bits :=
      if significand < twoTo 52 then significand
      else (exponent + 1074).toNat * twoTo 52 + significand
    if 2047 * twoTo 52 ≤ bits then 0x7ff0000000000000 else UInt64.ofNat bits

def nearest (num den : Nat) : Float := Float.ofBits (nearestBits num den)

def infinity : Float := Float.ofBits 0x7ff0000000000000

def notANumber : Float := Float.ofBits 0x7ff8000000000000

/-- The double nearest to the number with these decimal digits times a power of ten.
Beyond four hundred places on either side the answer is known without computing. -/
def nearestDecimal (digits : List Nat) (exponent : Int) : Float :=
  let n := digits.foldl (fun n d => 10 * n + d) 0
  if n = 0 then 0
  else if 400 < exponent then infinity
  else if exponent + digits.length < -400 then 0
  else if 0 ≤ exponent then nearest (n * tenTo exponent.toNat) 1
  else nearest n (tenTo (-exponent).toNat)

end PredictiveScaling.Decimal
