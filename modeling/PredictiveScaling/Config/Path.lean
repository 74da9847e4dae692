import PredictiveScaling.Config.Value

/-!
# Paths to settings

A key of the outermost table is a path: a name, then names behind points and numbers in
brackets. A setting put at a path makes the tables and lists on its way, in place of what
is neither. Names in tables are lower case, and a table is merged into the one that is
already there. A key that is no path is a name by itself.

A number below zero counts back from the end of a list. What would lie before its start,
or behind the longest list there can be, has no place.
-/
namespace PredictiveScaling.Config

inductive PathStep where
  | name (n : String)
  | index (i : Int)
deriving DecidableEq, Repr

/-- Characters of a name, the space included. -/
def isNameChar (c : Char) : Bool := c.isAlphanum || c == ' ' || c == '_' || c == '-'

def isBlank (c : Char) : Bool := c == ' ' || c == '\t'

/-- The number in brackets, with blanks around it or not. It has no plus sign. -/
def indexOfChars? (cs : List Char) : Option Int :=
  let inner := ((cs.dropWhile isBlank).reverse.dropWhile isBlank).reverse
  if inner.head? = some '+' then none
  else Decimal.readInt? Value.minInt Value.maxInt (String.ofList inner)

/-- Steps behind the first name. Each takes at least one character, so as much fuel as
there are characters is enough. -/
def stepsOfChars? : Nat → List Char → Option (List PathStep)
  | _, [] => some []
  | 0, _ => none
  | fuel + 1, '.' :: cs =>
    match cs.takeWhile isNameChar with
    | [] => none
    | n => (stepsOfChars? fuel (cs.dropWhile isNameChar)).map (.name (String.ofList n) :: ·)
  | fuel + 1, '[' :: cs =>
    match cs.dropWhile (· ≠ ']'), indexOfChars? (cs.takeWhile (· ≠ ']')) with
    | _ :: rest, some i => (stepsOfChars? fuel rest).map (.index i :: ·)
    | _, _ => none
  | _, _ => none

/-- The path that a key is. -/
def pathOfKey (key : String) : List PathStep :=
  let cs := key.toList
  match cs.takeWhile isNameChar with
  | [] => [.name key]
  | n =>
    match stepsOfChars? cs.length (cs.dropWhile isNameChar) with
    | some steps => .name (String.ofList n) :: steps
    | none => [.name key]

namespace Value

def entries : Value → List (String × Value)
  | .table es => es
  | _ => []

def elements : Value → List Value
  | .array xs => xs
  | _ => []

/-- Put an entry in the place of the one with the same name, or at the end. -/
def insertEntry (name : String) (v : Value) : List (String × Value) → List (String × Value)
  | [] => [(name, v)]
  | e :: es => if e.1 = name then (name, v) :: es else e :: insertEntry name v es

mutual

/-- Put a value under a name, merging a table into the one that is there. -/
def setName (name : String) : Value → Value → Value
  | .table incoming, root =>
    let id := Text.lower name
    let old := (root.entries.lookup id).getD (.table [])
    .table (insertEntry id (setNames incoming old) root.entries)
  | v, root => .table (insertEntry (Text.lower name) v root.entries)

def setNames : List (String × Value) → Value → Value
  | [], root => root
  | (name, v) :: rest, root => setNames rest (setName name v root)

end

/-- Lists are shorter than this. -/
def maxLength : Nat := 0x4000000

/-- The place that an index means in a list of some length. -/
def place? (i : Int) (length : Nat) : Option Nat :=
  if 0 ≤ i then (if i.toNat < maxLength then some i.toNat else none)
  else if i.natAbs ≤ length then some (length - i.natAbs)
  else none

/-- A list made long enough to have a place. -/
def padTo (xs : List Value) (k : Nat) : List Value :=
  xs ++ List.replicate (k + 1 - xs.length) .empty

theorem lt_length_padTo (xs : List Value) (k : Nat) : k < (padTo xs k).length := by
  simp only [padTo, List.length_append, List.length_replicate]
  omega

/-- A list with one element changed, made long enough for it. -/
def modifyAt? (i : Int) (f : Value → Option Value) (xs : List Value) : Option (List Value) := do
  let k ← place? i xs.length
  let v ← f ((padTo xs k).get ⟨k, lt_length_padTo xs k⟩)
  pure ((padTo xs k).set k v)

/-- Put a value at a path, all of whose numbers have to have a place. -/
def setAt? : List PathStep → Value → Value → Option Value
  | [], v, _ => some v
  | [.name n], v, root => some (setName n v root)
  | .name n :: steps, v, root => do
    let id := Text.lower n
    let new ← setAt? steps v ((root.entries.lookup id).getD .empty)
    pure (.table (insertEntry id new root.entries))
  | .index i :: steps, v, root => (modifyAt? i (setAt? steps v) root.elements).map .array

/-- Put settings into others, each key being a path. -/
def overlay? (root : Value) (settings : List (String × Value)) : Option Value :=
  settings.foldlM (fun root (key, v) => setAt? (pathOfKey key) v root) root

end Value

end PredictiveScaling.Config
