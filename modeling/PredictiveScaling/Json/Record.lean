import PredictiveScaling.Json.Number

/-!
# Typed reading

Readers take values of one type out of a tree. A record is written as an object or as an
array of its fields in order. In an object the fields may stand in any order, unknown
members are passed over, and a field named twice is refused. In an array fields may be
missing only at the end.
-/
namespace PredictiveScaling.Json

variable {α : Type}

def bool? : Json → Option Bool
  | .bool b => some b
  | _ => none

def string? : Json → Option String
  | .string t => t
  | _ => none

/-- A double, also from an integer. -/
def float? : Json → Option Float
  | .number n => n.value?.map Number.toFloat
  | _ => none

/-- An integer from `lo` to `hi`; a double is none, even a whole one. -/
def int? (lo hi : Int) : Json → Option Int
  | .number n => (n.value?.bind Number.toInt?).filter fun i => lo ≤ i && i ≤ hi
  | _ => none

/-- An integer from 0 to `bound`. -/
def nat? (bound : Nat) (j : Json) : Option Nat := (int? 0 bound j).map Int.toNat

def int32? (j : Json) : Option Int32 :=
  (int? Int32.minValue.toInt Int32.maxValue.toInt j).map Int32.ofInt

def int64? (j : Json) : Option Int64 :=
  (int? Int64.minValue.toInt Int64.maxValue.toInt j).map Int64.ofInt

/-- A count or an amount of seconds, a 64-bit word. -/
def size? (j : Json) : Option Nat := nat? (UInt64.size - 1) j

def list? (read : Json → Option α) : Json → Option (List α)
  | .array xs => xs.mapM read
  | _ => none

/-- `null` or a value. -/
def nullable? (read : Json → Option α) : Json → Option (Option α)
  | .null => some none
  | j => (read j).map some

/-- `null` or a value, with a value for `null`. -/
def orDefault? (default : α) (read : Json → Option α) (j : Json) : Option α :=
  (nullable? read j).map (·.getD default)

/-- One of some names, written as a string or as the only member, `null`, of an object. -/
def choice? (choices : List (String × α)) : Json → Option α
  | .string t => t.bind fun name => choices.lookup name
  | .object [(some name, .null)] => choices.lookup name
  | _ => none

/-- The fields that a written record has. -/
structure Record where
  /-- Written as an array. -/
  positional : Bool
  fields : List (String × Json)

/-- The fields of a record with these names. -/
def record? (names : List String) : Json → Option Record
  | .object members => do
    let named ← namedMembers? members
    let known := named.filter fun m => m.1 ∈ names
    if (known.map Prod.fst).Nodup then some ⟨false, known⟩ else none
  | .array xs => if xs.length ≤ names.length then some ⟨true, names.zip xs⟩ else none
  | _ => none

namespace Record

def find? (r : Record) (name : String) : Option Json := r.fields.lookup name

/-- A field that has to be there. -/
def required? (r : Record) (name : String) (read : Json → Option α) : Option α :=
  (r.find? name).bind read

/-- A field that may be `null` and, in an object, missing. -/
def optional? (r : Record) (name : String) (read : Json → Option α) : Option (Option α) :=
  match r.find? name with
  | some j => nullable? read j
  | none => if r.positional then none else some none

/-- A field that may be missing and then has a value of its own. -/
def withDefault? (r : Record) (name : String) (default : α) (read : Json → Option α) : Option α :=
  match r.find? name with
  | some j => read j
  | none => some default

end Record

end PredictiveScaling.Json
