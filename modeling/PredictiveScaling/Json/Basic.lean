/-!
# JSON values as they are written

The tree of a JSON text, before anything is taken out of it. Two things that a reader
may or may not look at are kept apart: the digits of a number, whose value can be out of
range, and the text of a string, which its escapes or bytes may fail to denote. Members
of an object keep their order and their duplicates; each reader has a rule for those.
-/
namespace PredictiveScaling

/-- The parts of a written number. -/
structure Json.Numeral where
  negative : Bool
  whole : List Nat
  /-- Digits behind the point. -/
  part : Option (List Nat)
  /-- Minus sign and digits of the exponent. -/
  exponent : Option (Bool × List Nat)
deriving DecidableEq, Repr

/-- A JSON text. The text of a string is absent when the literal denotes none. -/
inductive Json where
  | null
  | bool (b : Bool)
  | number (n : Json.Numeral)
  | string (text : Option String)
  | array (elements : List Json)
  | object (members : List (Option String × Json))
deriving Repr

namespace Json

instance : Inhabited Json := ⟨.null⟩

/-- Names and values, if every name denotes a text. -/
def namedMembers? (members : List (Option String × Json)) : Option (List (String × Json)) :=
  members.mapM fun (name, value) => name.map fun n => (n, value)

def isNull : Json → Bool
  | .null => true
  | _ => false

end Json

end PredictiveScaling
