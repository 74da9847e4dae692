import PredictiveScaling.Json.Document
import PredictiveScaling.Json.Record
import PredictiveScaling.Timestamp

/-!
# Shapes of API objects

An API object has fields of known types. Any of its fields may be missing or `null`, one
that stands there more than once has to fit each time, and a field that is not known may
hold anything. Elements of lists and values of maps are never `null`.
-/
namespace PredictiveScaling.Kubernetes

/-- What may stand in a place of an API object. -/
inductive Shape where
  | flag
  | int32
  | int64
  | text
  /-- One text and no other. -/
  | word (expected : String)
  /-- A 32-bit integer or a text. -/
  | intOrText
  /-- A text that denotes a point in time. -/
  | time
  /-- Anything that has a value. -/
  | any
  | list (element : Shape)
  /-- An object with any names. -/
  | map (value : Shape)
  | object (fields : List (String × Shape))

namespace Shape

/-- Fields of one shape. -/
def each (s : Shape) (names : List String) : List (String × Shape) := names.map fun n => (n, s)

/-- An object all of whose fields are texts. -/
def texts (names : List String) : Shape := .object (each .text names)

/-- Whether a field of this shape may be `null`. -/
def mayBeNull : Shape → Bool
  | .word _ => false
  | _ => true

mutual

/-- Whether a tree has a shape, with `room` for that many nested containers. -/
def fits (room : Nat) (shape : Shape) : Json → Bool
  | .null => match shape with
    | .any => true
    | _ => false
  | .bool b => match shape with
    | .flag => true
    | .any => (Json.Document.ofJson? room (.bool b)).isSome
    | _ => false
  | .number n => match shape with
    | .int32 | .intOrText => (Json.int32? (.number n)).isSome
    | .int64 => (Json.int64? (.number n)).isSome
    | .any => (Json.Document.ofJson? room (.number n)).isSome
    | _ => false
  | .string t => match shape with
    | .text | .intOrText | .any => t.isSome
    | .word expected => t == some expected
    | .time => (t.bind Timestamp.ofText?).isSome
    | _ => false
  | .array xs => match shape, room with
    | .list s, room + 1 => fitsAll room s xs
    | .any, room => (Json.Document.ofJson? room (.array xs)).isSome
    | _, _ => false
  | .object ms => match shape, room with
    | .map s, room + 1 => fitsValues room s ms
    | .object fields, room + 1 => fitsFields room fields ms
    | .any, room => (Json.Document.ofJson? room (.object ms)).isSome
    | _, _ => false

def fitsAll (room : Nat) (shape : Shape) : List Json → Bool
  | [] => true
  | x :: xs => fits room shape x && fitsAll room shape xs

def fitsValues (room : Nat) (shape : Shape) : List (Option String × Json) → Bool
  | [] => true
  | (name, x) :: ms => name.isSome && fits room shape x && fitsValues room shape ms

def fitsFields (room : Nat) (fields : List (String × Shape)) :
    List (Option String × Json) → Bool
  | [] => true
  | (none, _) :: _ => false
  | (some name, x) :: ms =>
    (match fields.lookup name with
      | none => true
      | some shape => (x.isNull && shape.mayBeNull) || fits room shape x) &&
      fitsFields room fields ms

end

end Shape

end PredictiveScaling.Kubernetes
