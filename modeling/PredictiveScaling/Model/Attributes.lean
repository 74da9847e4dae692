import PredictiveScaling.Model
import PredictiveScaling.Fault
import PredictiveScaling.KeyMap
import PredictiveScaling.Text.Blank
import PredictiveScaling.Decimal.Reading

/-!
# Models from attributes

A model's settings are a bag of named texts. Each model takes the attributes it knows in
a fixed order and the first one that is missing or does not read is the fault. White
space around a value is ignored, but shown in the fault.
-/
namespace PredictiveScaling

abbrev Attributes := KeyMap String String

namespace Attributes

variable {α : Type}

/-- The value of an attribute that may be missing. -/
def optional? (a : Attributes) (name : String) (read : String → Option α) :
    Except ModelFault (Option α) :=
  match a.find? name with
  | none => .ok none
  | some raw =>
    match read (Text.trim raw) with
    | some v => .ok (some v)
    | none => .error (.badAttribute name raw)

/-- The value of an attribute that has to be there. -/
def required? (a : Attributes) (name : String) (read : String → Option α) : Except ModelFault α :=
  match a.optional? name read with
  | .ok (some v) => .ok v
  | .ok none => .error (.missingAttribute name)
  | .error e => .error e

/-- A text that has to be there; it is taken as it is. -/
def text? (a : Attributes) (name : String) : Except ModelFault String :=
  match a.find? name with
  | some raw => .ok raw
  | none => .error (.missingAttribute name)

end Attributes

/-- A 64-bit word without sign. -/
def readWord64? (s : String) : Option UInt64 :=
  (Decimal.readNat? (UInt64.size - 1) s).map UInt64.ofNat

namespace SeasonalParams

def ofAttributes (a : Attributes) : Except ModelFault SeasonalParams := do
  let seasonLength ← a.required? "slen" readWord64?
  let lookBack ← a.required? "look_back" readWord64?
  let lookForward ← a.required? "look_forward" readWord64?
  let alpha ← a.required? "alpha" Decimal.readFloat?
  let beta ← a.required? "beta" Decimal.readFloat?
  let gamma ← a.required? "gamma" Decimal.readFloat?
  pure { seasonLength, lookBack, lookForward, alpha, beta, gamma }

end SeasonalParams

namespace RemoteParams

def defaultReportAddress : String := "/tmp/rra.socket"

def defaultEpochs : UInt64 := 100

def defaultLayers : UInt64 := 2

/-- A tenth of the training size, but not less than one. -/
def defaultBatchSize (trainSize : UInt64) : UInt64 := max (trainSize / 10) 1

/-- A batch size of 0 stands for the default one. -/
def ofAttributes (a : Attributes) : Except ModelFault RemoteParams := do
  let trainSize ← a.required? "train_size" readWord64?
  let batchSize := (← a.optional? "batch_size" readWord64?).getD 0
  let address ← a.text? "address"
  let reportAddress := (a.find? "resp_recv_address").getD defaultReportAddress
  let lookBack ← a.required? "look_back" readWord64?
  let lookForward ← a.required? "look_forward" readWord64?
  let epochs := (← a.optional? "epochs" readWord64?).getD defaultEpochs
  let layers := (← a.optional? "n_layers" readWord64?).getD defaultLayers
  pure {
    address, reportAddress, lookBack, lookForward, trainSize, epochs, layers
    batchSize := if batchSize = 0 then defaultBatchSize trainSize else batchSize }

end RemoteParams

/-- The model of a type with these attributes. -/
def ModelKind.ofAttributes (type : String) (a : Attributes) : Except ModelFault ModelKind :=
  if type = seasonalTag then (SeasonalParams.ofAttributes a).map .seasonal
  else if type = remoteTag then (RemoteParams.ofAttributes a).map .remote
  else .error (.unknownType type)

/-- The model described by a type, its training settings and attributes. -/
def ModelSpec.ofAttributes (type : String) (needTrain : Bool) (updateInterval : Duration)
    (a : Attributes) : Except ModelFault ModelSpec :=
  (ModelKind.ofAttributes type a).map fun kind => { kind, needTrain, updateInterval }

end PredictiveScaling
