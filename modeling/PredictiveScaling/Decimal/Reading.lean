import PredictiveScaling.Decimal.Binary

/-!
# Numbers in settings

How numbers are read from the text of a setting. Nothing may stand before or behind the
number. Whole numbers are a sign and ASCII digits. Other numbers may have a point with
digits on at least one side of it and an exponent, or be one of the words for infinity
and not-a-number in any letter case; the value is the nearest double.
-/
namespace PredictiveScaling.Decimal

def digitValue (c : Char) : Nat := c.toNat - 48

/-- The ASCII digits at the start, and the rest. -/
def splitDigits (cs : List Char) : List Nat × List Char :=
  ((cs.takeWhile Char.isDigit).map digitValue, cs.dropWhile Char.isDigit)

def natOfDigits (ds : List Nat) : Nat := ds.foldl (fun n d => 10 * n + d) 0

/-- A sign if there is one: whether it is a minus, and the rest. -/
def splitSign : List Char → Bool × List Char
  | '-' :: cs => (true, cs)
  | '+' :: cs => (false, cs)
  | cs => (false, cs)

/-- At least one ASCII digit and nothing else. -/
def readDigits? (cs : List Char) : Option Nat :=
  match splitDigits cs with
  | (d :: ds, []) => some (natOfDigits (d :: ds))
  | _ => none

/-- An optional plus sign and digits, for a number up to `bound`. -/
def readNat? (bound : Nat) (s : String) : Option Nat :=
  let cs := match s.toList with
    | '+' :: cs => cs
    | cs => cs
  (readDigits? cs).filter (· ≤ bound)

/-- An optional sign and digits, for a number from `lo` to `hi`. -/
def readInt? (lo hi : Int) (s : String) : Option Int :=
  let (negative, cs) := splitSign s.toList
  (readDigits? cs).bind fun n =>
    let i : Int := if negative then -n else n
    if lo ≤ i ∧ i ≤ hi then some i else none

/-- The words for values that have no digits. -/
def readWord? (cs : List Char) : Option Float :=
  match String.ofList (cs.map Char.toLower) with
  | "inf" | "infinity" => some infinity
  | "nan" => some notANumber
  | _ => none

/-- The power of ten behind the digits: none at all is 0. -/
def readExponent? : List Char → Option Int
  | [] => some 0
  | c :: cs =>
    if c = 'e' ∨ c = 'E' then
      let (negative, cs) := splitSign cs
      (readDigits? cs).map fun n => if negative then -n else n
    else none

/-- Digits with an optional point and exponent. -/
def readDecimal? (cs : List Char) : Option Float :=
  let (whole, rest) := splitDigits cs
  let (part, rest) := match rest with
    | '.' :: rest => splitDigits rest
    | rest => ([], rest)
  if whole.isEmpty && part.isEmpty then none
  else (readExponent? rest).map fun e => nearestDecimal (whole ++ part) (e - part.length)

/-- A double, in any of the forms that settings may use. -/
def readFloat? (s : String) : Option Float :=
  let (negative, cs) := splitSign s.toList
  ((readWord? cs).or (readDecimal? cs)).map fun x => if negative then -x else x

end PredictiveScaling.Decimal
