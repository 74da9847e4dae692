import PredictiveScaling.Decimal.Shortest

/-!
# Written doubles

A layout says how the shortest digits of a double are set: where an exponent is used,
what follows a whole number, and which way an exact tie between two shortest decimals
goes. `plain` is the layout of messages, `json` the one of JSON documents.
-/
namespace PredictiveScaling.Decimal

/-- The choices of a written form for doubles. -/
structure Layout where
  /-- The least and the greatest power of ten of the first digit for which no exponent
  is written; without a range there never is one. -/
  positional : Option (Int × Int)
  /-- Stands behind a whole number that has no exponent. -/
  wholeEnding : String
  tieUp : Bool
deriving Repr

/-- Never an exponent, nothing behind a whole number, ties away from zero. -/
def Layout.plain : Layout := ⟨none, "", true⟩

/-- An exponent from `1e16` up and below `1e-5`, whole numbers end in `.0`, ties to even. -/
def Layout.json : Layout := ⟨some (-5, 15), ".0", false⟩

def digitText (ds : List Nat) : String := String.ofList (ds.map Nat.digitChar)

/-- Digits with a point and, on either side, the zeros that the power of ten asks for. -/
def positionalText (ds : List Nat) (magnitude : Int) (wholeEnding : String) : String :=
  if magnitude < 0 then
    "0." ++ digitText (List.replicate (-magnitude - 1).toNat 0 ++ ds)
  else
    let whole := magnitude.toNat + 1
    if ds.length ≤ whole then
      digitText (ds ++ List.replicate (whole - ds.length) 0) ++ wholeEnding
    else digitText (ds.take whole) ++ "." ++ digitText (ds.drop whole)

/-- One digit, a point and the others if there are any, and a signed power of ten. -/
def exponentText (ds : List Nat) (magnitude : Int) : String :=
  digitText (ds.take 1) ++ (if ds.length ≤ 1 then "" else "." ++ digitText (ds.drop 1)) ++
    "e" ++ (if magnitude < 0 then "-" else "+") ++ toString magnitude.natAbs

/-- The text of a positive finite double. -/
def Layout.magnitudeText (l : Layout) (d : Digits) : String :=
  match l.positional with
  | none => positionalText d.digits d.magnitude l.wholeEnding
  | some (lo, hi) =>
    if lo ≤ d.magnitude ∧ d.magnitude ≤ hi then positionalText d.digits d.magnitude l.wholeEnding
    else exponentText d.digits d.magnitude

/-- The text of a double. -/
def Layout.render (l : Layout) (x : Float) : String :=
  match valueOf x with
  | .nan => "NaN"
  | .infinite negative => if negative then "-inf" else "inf"
  | .finite negative significand exponent =>
    (if negative then "-" else "") ++
      if significand = 0 then "0" ++ l.wholeEnding
      else l.magnitudeText (shortest significand exponent l.tieUp)

end PredictiveScaling.Decimal
