import PredictiveScaling.Decimal.Power
import PredictiveScaling.Text.Blank

/-!
# Points in time

A point in time is a number of milliseconds since the first of January 1970, UTC. It is
read from a date, a time of day and an offset from UTC, in the usual form with some
freedom: spaces may stand before each number and each mark, numbers may be short, and a
second 60 is the first one of the next minute.
-/
namespace PredictiveScaling.Timestamp

open PredictiveScaling.Text (isBlank)

/-- The first and the last millisecond that a point in time may have. -/
def earliest : Int := -8334601228800000

def latest : Int := 8210266876799999

/-- Whether a number of milliseconds is a point in time. -/
def inRange (ms : Int) : Bool := earliest ≤ ms && ms ≤ latest

def isLeapYear (y : Int) : Bool := y % 4 == 0 && (y % 100 != 0 || y % 400 == 0)

def daysInMonth (y : Int) (m : Nat) : Nat :=
  if m = 2 then (if isLeapYear y then 29 else 28)
  else if m = 4 ∨ m = 6 ∨ m = 9 ∨ m = 11 then 30
  else 31

/-- Days from the first of January of the year 0 to the first of January of year `y`. -/
def daysToYear (y : Int) : Int :=
  let z := y - 1
  y * 365 + Int.fdiv z 4 - Int.fdiv z 100 + Int.fdiv z 400 + 1

/-- Days from the first of January 1970. -/
def daysSinceEpoch (y : Int) (m d : Nat) : Int :=
  let before := (List.range (m - 1)).foldl (fun n i => n + daysInMonth y (i + 1)) 0
  daysToYear y - daysToYear 1970 + before + (d - 1 : Nat)

def skipBlanks (cs : List Char) : List Char := cs.dropWhile isBlank

/-- At least one and at most `most` digits. -/
def readDigits? (most : Nat) (cs : List Char) : Option (List Nat × List Char) :=
  let ds := (cs.take most).takeWhile Char.isDigit
  if ds.isEmpty then none
  else some (ds.map fun c => c.toNat - 48, cs.drop ds.length)

def valueOf (ds : List Nat) : Nat := ds.foldl (fun n d => 10 * n + d) 0

/-- A number of at most two digits, from `lo` to `hi`, after blanks. -/
def readField? (lo hi : Nat) (cs : List Char) : Option (Nat × List Char) := do
  let (ds, cs) ← readDigits? 2 (skipBlanks cs)
  let n := valueOf ds
  if lo ≤ n ∧ n ≤ hi then some (n, cs) else none

/-- A year: four digits at most, or any number of them after a sign. -/
def readYear? (cs : List Char) : Option (Int × List Char) :=
  match skipBlanks cs with
  | '-' :: cs => (readDigits? cs.length cs).map fun (ds, cs) => (-(valueOf ds : Int), cs)
  | '+' :: cs => (readDigits? cs.length cs).map fun (ds, cs) => ((valueOf ds : Int), cs)
  | cs => (readDigits? 4 cs).map fun (ds, cs) => ((valueOf ds : Int), cs)

/-- A mark, perhaps after blanks. -/
def readMark? (mark : Char) (cs : List Char) : Option (List Char) :=
  match skipBlanks cs with
  | c :: cs => if c = mark then some cs else none
  | [] => none

/-- Whole milliseconds of the part of a second behind a point. -/
def readPart? : List Char → Option (Nat × List Char)
  | '.' :: cs => do
    let (ds, cs) ← readDigits? 9 cs
    let nanos := valueOf ds * Decimal.tenTo (9 - ds.length)
    pure (nanos / 1000000, cs.dropWhile Char.isDigit)
  | cs => some (0, cs)

/-- Two digits, the first one not above `top`. -/
def readPair? (top : Nat) : List Char → Option (Nat × List Char)
  | a :: b :: cs =>
    if a.isDigit ∧ b.isDigit ∧ a.toNat - 48 ≤ top then
      some ((a.toNat - 48) * 10 + (b.toNat - 48), cs)
    else none
  | _ => none

/-- Minutes east of UTC. -/
def readOffset? (cs : List Char) : Option (Int × List Char) :=
  match cs with
  | 'Z' :: cs | 'z' :: cs => some (0, cs)
  | sign :: cs' =>
    if cs.length ≥ 3 ∧ (cs.take 3).map Char.toLower = ['u', 't', 'c'] then some (0, cs.drop 3)
    else if sign = '+' ∨ sign = '-' ∨ sign = '\u2212' then do
      let (hours, cs) ← readPair? 9 cs'
      let (minutes, cs) ← readPair? 5 (cs.dropWhile fun c => c = ':' || isBlank c)
      let total : Int := hours * 60 + minutes
      if total < 1440 then some (if sign = '+' then total else -total, cs) else none
    else none
  | [] => none

/-- A date: year, month and a day that the month has. -/
def readDate? (cs : List Char) : Option (Int × List Char) := do
  let (y, cs) ← readYear? cs
  let cs ← readMark? '-' cs
  let (m, cs) ← readField? 1 12 cs
  let cs ← readMark? '-' cs
  let (d, cs) ← readField? 1 31 cs
  if d ≤ daysInMonth y m then some (daysSinceEpoch y m d, cs) else none

/-- A time of day: the milliseconds up to its minute, and those in the minute. -/
def readClock? (cs : List Char) : Option ((Nat × Nat) × List Char) := do
  let (h, cs) ← readField? 0 23 cs
  let cs ← readMark? ':' cs
  let (m, cs) ← readField? 0 59 cs
  let cs ← readMark? ':' cs
  let (s, cs) ← readField? 0 60 cs
  let (ms, cs) ← readPart? cs
  pure (((h * 60 + m) * 60000, s * 1000 + ms), cs)

/-- The point in time that a text denotes. Both the date that is written and the one in UTC
have to be in range. -/
def ofText? (text : String) : Option Int := do
  let (days, cs) ← readDate? text.toList
  let cs ← match cs with
    | 'T' :: cs | 't' :: cs | ' ' :: cs => some cs
    | _ => none
  let ((toMinute, ms), cs) ← readClock? cs
  let (offset, cs) ← readOffset? (skipBlanks cs)
  let minute := days * 86400000 + toMinute - offset * 60000
  if (skipBlanks cs).isEmpty ∧ inRange (days * 86400000) ∧ inRange minute then some (minute + ms)
  else none

end PredictiveScaling.Timestamp
