import PredictiveScaling.Decimal.Binary

/-!
# Shortest decimals

Among the decimals that round to a given positive double, the ones with the fewest
significant digits, and of those the nearest to it. The reals that round to the double
form an interval, closed exactly when the significand is even; on the grid of the
decimals with `n` digits only the two neighbours of the double have to be tried.
-/
namespace PredictiveScaling.Decimal

/-- Digits, the first one not zero, and the power of ten of the first digit. -/
structure Digits where
  digits : List Nat
  magnitude : Int
deriving DecidableEq, Repr

/-- A double as `num / den`, with the interval of the reals that round to it. -/
structure Scaled where
  num : Nat
  den : Nat
  /-- Distances to the ends of the interval, in units of one over `den`. -/
  below : Nat
  above : Nat
  closed : Bool

def Scaled.ofBinary (significand : Nat) (exponent : Int) : Scaled :=
  let narrow := significand = twoTo 52 ∧ -1074 < exponent
  let e := exponent - 2
  let unit := if 0 ≤ e then twoTo e.toNat else 1
  { num := 4 * significand * unit
    den := if 0 ≤ e then 1 else twoTo (-e).toNat
    below := (if narrow then 1 else 2) * unit
    above := 2 * unit
    closed := significand % 2 = 0 }

/-- The greatest power of ten not above `num / den`: an estimate from the length of both
numbers is at most one too small on either side, so three candidates are tried. -/
def magnitudeOf (num den : Nat) : Int :=
  let reaches (m : Int) : Bool :=
    if 0 ≤ m then den * tenTo m.toNat ≤ num else den ≤ num * tenTo (-m).toNat
  let m := ((num.log2 : Int) - den.log2) * 1233 / 4096
  if reaches (m + 1) then m + 1
  else if reaches m then m
  else if reaches (m - 1) then m - 1
  else m - 2

/-- Try the grid of spacing `10 ^ place`. The answer is a multiple of the spacing. -/
def Scaled.onGrid? (s : Scaled) (place : Int) (tieUp : Bool) : Option Nat :=
  let p := if 0 ≤ place then tenTo place.toNat else 1
  let f := if 0 ≤ place then 1 else tenTo (-place).toNat
  -- the double is `num * f` and a grid point `q` is `q * step`, in units of one over `den * f`
  let num := s.num * f
  let step := s.den * p
  let low := num / step
  let down := num - low * step
  let up := (low + 1) * step - num
  let downIn := down < s.below * f || (s.closed && down == s.below * f)
  let upIn := up < s.above * f || (s.closed && up == s.above * f)
  match downIn, upIn with
  | true, true =>
    if down < up then some low
    else if up < down then some (low + 1)
    else if tieUp then some (low + 1)
    else some (if low % 2 = 0 then low else low + 1)
  | true, false => some low
  | false, true => some (low + 1)
  | false, false => none

/-- Decimal digits, most significant first. -/
def digitsOf (n : Nat) : List Nat := (Nat.toDigits 10 n).map fun c => c.toNat - 48

/-- Grids of `n`, `n + 1`, … digits, `steps` of them; seventeen always suffice. -/
def Scaled.search (s : Scaled) (magnitude : Int) (tieUp : Bool) : Nat → Nat → Digits
  | 0, n => ⟨digitsOf (s.num * tenTo n / s.den), magnitude⟩
  | steps + 1, n =>
    let place := magnitude - n + 1
    match s.onGrid? place tieUp with
    | some 0 | none => s.search magnitude tieUp steps (n + 1)
    | some q =>
      let ds := digitsOf q
      ⟨(ds.reverse.dropWhile (· = 0)).reverse, place + ds.length - 1⟩

/-- The shortest digits of a positive double `significand * 2 ^ exponent`. -/
def shortest (significand : Nat) (exponent : Int) (tieUp : Bool) : Digits :=
  let s := Scaled.ofBinary significand exponent
  s.search (magnitudeOf s.num s.den) tieUp 17 1

end PredictiveScaling.Decimal
