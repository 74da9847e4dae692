import PredictiveScaling.Decimal.Layout
import PredictiveScaling.Decimal.Reading
import PredictiveScaling.Json.Document
import PredictiveScaling.Text.Case

/-!
# Settings

The values that settings have before their type is asked for, and how they turn into
values of a type. Conversion is generous between numbers, truth values and texts; what is
empty, a list or a table converts to none of these.
-/
namespace PredictiveScaling.Config

inductive Value where
  | empty
  | bool (b : Bool)
  | int (i : Int)
  | float (x : Float)
  | string (s : String)
  | array (elements : List Value)
  | table (entries : List (String × Value))
deriving Repr

namespace Value

instance : Inhabited Value := ⟨.empty⟩

def minInt : Int := Int64.minValue.toInt

def maxInt : Int := Int64.maxValue.toInt

def maxWord : Int := UInt64.size - 1

mutual

/-- The settings that a document gives. Integers beyond 64 bits with sign are doubles. -/
def ofDocument : Json.Document → Value
  | .null => .empty
  | .bool b => .bool b
  | .int i => if minInt ≤ i ∧ i ≤ maxInt then .int i else .float (Decimal.nearest i.natAbs 1)
  | .float x => .float x
  | .string s => .string s
  | .array xs => .array (ofDocuments xs)
  | .object ms => .table (ofMembers ms)

def ofDocuments : List Json.Document → List Value
  | [] => []
  | x :: xs => ofDocument x :: ofDocuments xs

def ofMembers : List (String × Json.Document) → List (String × Value)
  | [] => []
  | (k, x) :: ms => (k, ofDocument x) :: ofMembers ms

end

/-! ## Conversions -/

/-- Words for a truth value. -/
def word? (s : String) : Option Bool :=
  match Text.lower s with
  | "true" | "on" | "yes" => some true
  | "false" | "off" | "no" => some false
  | _ => none

def bool? : Value → Option Bool
  | .bool b => some b
  | .int i => some (i ≠ 0)
  | .float x => some (x != 0.0)
  | .string s =>
    match s with
    | "1" => some true
    | "0" => some false
    | _ => word? s
  | _ => none

/-- A number read from a text, where a word for a truth value is 1 or 0. -/
def ofText? {α : Type} (one zero : α) (read : String → Option α) (s : String) : Option α :=
  match word? s with
  | some true => some one
  | some false => some zero
  | none => read s

/-- A 64-bit integer with sign. -/
def int? : Value → Option Int
  | .bool b => some (if b then 1 else 0)
  | .int i => some i
  | .float x => some x.round.toInt64.toInt
  | .string s => ofText? 1 0 (Decimal.readInt? minInt maxInt) s
  | _ => none

/-- A 64-bit integer without sign. -/
def nat? : Value → Option Nat
  | .bool b => some (if b then 1 else 0)
  | .int i => if 0 ≤ i then some i.toNat else none
  | .float x => some x.round.toUInt64.toNat
  | .string s => ofText? 1 0 (Decimal.readNat? maxWord.toNat) s
  | _ => none

def float? : Value → Option Float
  | .bool b => some (if b then 1.0 else 0.0)
  | .int i => some (if i < 0 then -(Decimal.nearest i.natAbs 1) else Decimal.nearest i.natAbs 1)
  | .float x => some x
  | .string s => ofText? 1.0 0.0 Decimal.readFloat? s
  | _ => none

def string? : Value → Option String
  | .bool b => some (if b then "true" else "false")
  | .int i => some (toString i)
  | .float x => some (Decimal.Layout.plain.render x)
  | .string s => some s
  | _ => none

/-- A 32-bit integer with sign. -/
def int32? (v : Value) : Option Int32 :=
  v.int?.bind fun i =>
    if Int32.minValue.toInt ≤ i ∧ i ≤ Int32.maxValue.toInt then some (Int32.ofInt i) else none

/-- An integer without sign and with a bound. -/
def boundedNat? (bound : Nat) (v : Value) : Option Nat := v.nat?.filter (· ≤ bound)

def list? {α : Type} (read : Value → Option α) : Value → Option (List α)
  | .array xs => xs.mapM read
  | _ => none

/-- Named values, all of one type. -/
def map? {α : Type} (read : Value → Option α) : Value → Option (List (String × α))
  | .table entries => entries.mapM fun (k, v) => (read v).map fun a => (k, a)
  | _ => none

/-- One of some names in any letter case, or a table with that name only. -/
def choice? {α : Type} (choices : List (String × α)) : Value → Option α
  | .string s => find s
  | .table [(name, _)] => find name
  | _ => none
where
  find (name : String) : Option α :=
    (choices.find? fun c => Text.lower c.1 == Text.lower name).map Prod.snd

end Value

/-! ## Records -/

/-- The fields of a record: by name from a table, in order from a list. -/
structure Fields where
  fields : List (String × Value)

namespace Fields

/-- Fields of a table or of a list; what a list has beyond the fields is not looked at. -/
def of? (names : List String) : Value → Option Fields
  | .table entries => some ⟨entries⟩
  | .array xs => some ⟨names.zip xs⟩
  | _ => none

variable {α : Type}

def required? (f : Fields) (name : String) (read : Value → Option α) : Option α :=
  (f.fields.lookup name).bind read

def withDefault? (f : Fields) (name : String) (default : α) (read : Value → Option α) :
    Option α :=
  match f.fields.lookup name with
  | some v => read v
  | none => some default

end Fields

end PredictiveScaling.Config
