/-!
# Folding replica counts

The counts of several models on one metric are folded position by position, those of
several metrics are added up by weight, and the sums are reduced to one number. Each step
is cut to the shortest of its sequences. Sums are 64-bit words and wrap.
-/
namespace PredictiveScaling

/-- The length of the shortest sequence. -/
def shortestLength {α : Type} : List (List α) → Nat
  | [] => 0
  | [s] => s.length
  | s :: ss => min s.length (shortestLength ss)

/-- The elements that the sequences have at a position. -/
def column {α : Type} (sequences : List (List α)) (i : Nat) : List α :=
  sequences.filterMap fun s => s[i]?

/-- How the sequences of the models on one metric become one. -/
inductive ModelStrategy where
  | max
  | min
  | mean
deriving DecidableEq, Repr, Inhabited

namespace ModelStrategy

/-- The written names. -/
def names : List (String × ModelStrategy) := [("max", max), ("min", min), ("mean", mean)]

def name : ModelStrategy → String
  | max => "max"
  | min => "min"
  | mean => "mean"

/-- The floor of the average, from a sum in 64 bits. -/
def average (xs : List Int32) : Int32 :=
  let total := xs.foldl (fun (s : Int64) x => s + x.toInt64) 0
  Int32.ofInt (total.toInt / xs.length)

/-- Fold the elements at one position. -/
def fold (s : ModelStrategy) (xs : List Int32) : Int32 :=
  match s with
  | max => (xs.max?).getD 0
  | min => (xs.min?).getD 0
  | mean => average xs

/-- Fold sequences position by position. -/
def apply (s : ModelStrategy) (sequences : List (List Int32)) : List Int32 :=
  (List.range (shortestLength sequences)).map fun i => s.fold (column sequences i)

end ModelStrategy

/-- The weighted sum of sequences at each position. -/
def weightedSum (weighted : List (Int32 × List Int32)) : List Int64 :=
  (List.range (shortestLength (weighted.map Prod.snd))).map fun i =>
    weighted.foldl (fun (s : Int64) m => s + m.1.toInt64 * ((m.2[i]?).getD 0).toInt64) 0

/-- How the weighted sums become one number. -/
inductive PeakStrategy where
  | selectMax
deriving DecidableEq, Repr, Inhabited

namespace PeakStrategy

def names : List (String × PeakStrategy) := [("select_max", selectMax)]

def name : PeakStrategy → String
  | selectMax => "select_max"

/-- The number for a sequence, none for an empty one. -/
def apply (_ : PeakStrategy) (sums : List Int64) : Option Int64 := sums.max?

end PeakStrategy

end PredictiveScaling
