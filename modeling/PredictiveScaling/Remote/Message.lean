import PredictiveScaling.Fault
import PredictiveScaling.Json.Reader
import PredictiveScaling.Model.Written

/-!
# Messages to and from served models

The four messages in their written form. A message is one JSON document on a line of its
own; it is read up to the first line feed or the end, and a line that is blank is no
message at all. Served models write `null` for what they leave unset and may describe an
error by any JSON value, which is then kept as its compact text.
-/
namespace PredictiveScaling

/-- Ask for a forecast. -/
structure PredictRequest where
  key : String
  history : List Float
  lookBack : UInt64
  lookForward : UInt64
deriving Repr

/-- Ask for a training. -/
structure TrainRequest where
  key : String
  history : List Float
  reportAddress : String
  lookBack : UInt64
  lookForward : UInt64
  batchSize : UInt64
  epochs : UInt64
  layers : UInt64
deriving Repr

/-- The answer to a prediction request. -/
structure PredictReply where
  trained : Bool
  key : Option String
  prediction : List Float
  loss : Option Float
  error : String
deriving Repr

/-- The report on a training. -/
structure TrainReport where
  trained : Bool
  key : Option String
  loss : Option Float
  error : String
deriving Repr

/-! ## Written forms -/

namespace PredictRequest

def fieldNames : List String := ["key", "predict_history", "look_back", "look_forward"]

def ofJson? (j : Json) : Option PredictRequest := do
  let r ← Json.record? fieldNames j
  pure {
    key := ← r.required? "key" Json.string?
    history := ← r.required? "predict_history" (Json.list? Json.float?)
    lookBack := ← r.required? "look_back" word64?
    lookForward := ← r.required? "look_forward" word64? }

def toDocument (m : PredictRequest) : Json.Document :=
  .object [("key", .string m.key), ("predict_history", .array (m.history.map .float)),
    ("look_back", wordDocument m.lookBack), ("look_forward", wordDocument m.lookForward)]

end PredictRequest

namespace TrainRequest

def fieldNames : List String :=
  ["key", "train_history", "resp_recv_address", "look_back", "look_forward", "batch_size",
    "epochs", "n_layers"]

def ofJson? (j : Json) : Option TrainRequest := do
  let r ← Json.record? fieldNames j
  pure {
    key := ← r.required? "key" Json.string?
    history := ← r.required? "train_history" (Json.list? Json.float?)
    reportAddress := ← r.required? "resp_recv_address" Json.string?
    lookBack := ← r.required? "look_back" word64?
    lookForward := ← r.required? "look_forward" word64?
    batchSize := ← r.required? "batch_size" word64?
    epochs := ← r.required? "epochs" word64?
    layers := ← r.required? "n_layers" word64? }

def toDocument (m : TrainRequest) : Json.Document :=
  .object [("key", .string m.key), ("train_history", .array (m.history.map .float)),
    ("resp_recv_address", .string m.reportAddress), ("look_back", wordDocument m.lookBack),
    ("look_forward", wordDocument m.lookForward), ("batch_size", wordDocument m.batchSize),
    ("epochs", wordDocument m.epochs), ("n_layers", wordDocument m.layers)]

end TrainRequest

/-- The text of a described error: none for `null`, a string as it is, and of any other value
its compact text. `room` is for containers nested in it. -/
def errorText? (room : Nat) (j : Json) : Option String :=
  (Json.Document.ofJson? room j).map fun
    | .null => ""
    | .string text => text
    | d => d.render

/-- The room for containers inside of a message. -/
def messageRoom : Nat := Json.maxNesting - 1

namespace PredictReply

def fieldNames : List String := ["trained", "key", "prediction", "loss", "error"]

def ofJson? (j : Json) : Option PredictReply := do
  let r ← Json.record? fieldNames j
  pure {
    trained := ← r.withDefault? "trained" false (Json.orDefault? false Json.bool?)
    key := ← r.withDefault? "key" none (Json.nullable? Json.string?)
    prediction := ← r.withDefault? "prediction" [] (Json.orDefault? [] (Json.list? Json.float?))
    loss := ← r.withDefault? "loss" none (Json.nullable? Json.float?)
    error := ← r.withDefault? "error" "" (errorText? messageRoom) }

def toDocument (m : PredictReply) : Json.Document :=
  .object [("trained", .bool m.trained), ("key", .ofOption .string m.key),
    ("prediction", .array (m.prediction.map .float)), ("loss", .ofOption .float m.loss),
    ("error", .string m.error)]

end PredictReply

namespace TrainReport

def fieldNames : List String := ["trained", "key", "loss", "error"]

def ofJson? (j : Json) : Option TrainReport := do
  let r ← Json.record? fieldNames j
  pure {
    trained := ← r.withDefault? "trained" false (Json.orDefault? false Json.bool?)
    key := ← r.withDefault? "key" none (Json.nullable? Json.string?)
    loss := ← r.withDefault? "loss" none (Json.nullable? Json.float?)
    error := ← r.withDefault? "error" "" (errorText? messageRoom) }

def toDocument (m : TrainReport) : Json.Document :=
  .object [("trained", .bool m.trained), ("key", .ofOption .string m.key),
    ("loss", .ofOption .float m.loss), ("error", .string m.error)]

end TrainReport

/-! ## Lines -/

namespace Line

def lineFeed : UInt8 := 0x0a

/-- White space of a line that holds no message. -/
def isBlankByte (b : UInt8) : Bool :=
  b == 0x20 || b == 0x09 || b == 0x0a || b == 0x0c || b == 0x0d

/-- The bytes of a document as a line. -/
def write (d : Json.Document) : List UInt8 := d.render.toUTF8.toList ++ [lineFeed]

/-- The bytes up to the first line feed, which is included, or to the end. -/
def first (bs : List UInt8) : List UInt8 :=
  bs.takeWhile (· ≠ lineFeed) ++ (bs.dropWhile (· ≠ lineFeed)).take 1

/-- Read the message on the first line of what arrived. -/
def read {α : Type} (ofJson? : Json → Option α) (bs : List UInt8) : Except TransportFault α :=
  let line := first bs
  if line.all isBlankByte then .error .closedWithoutMessage
  else
    match (Json.parse? line).bind ofJson? with
    | some m => .ok m
    | none => .error .malformed

end Line

end PredictiveScaling
