import PredictiveScaling.Model
import PredictiveScaling.Json.Record
import PredictiveScaling.Json.Document

/-!
# Models in JSON

The written forms of models. A model says its type in the member `type`; everything in a
model has to have a value, also the members that nobody reads, because the type may come
last. Intervals are whole seconds.
-/
namespace PredictiveScaling

/-- A duration in whole seconds. -/
def Duration.ofJson? (j : Json) : Option Duration := (Json.size? j).map Duration.ofSecs

def Duration.toDocument (d : Duration) : Json.Document := .ofNat d.secs

def word64? (j : Json) : Option UInt64 := (Json.size? j).map UInt64.ofNat

def wordDocument (n : UInt64) : Json.Document := .ofNat n.toNat

namespace SeasonalParams

def fieldNames : List String :=
  ["season_length", "look_back", "look_forward", "alpha", "beta", "gamma"]

def ofJson? (j : Json) : Option SeasonalParams := do
  let r ← Json.record? fieldNames j
  pure {
    seasonLength := ← r.required? "season_length" word64?
    lookBack := ← r.required? "look_back" word64?
    lookForward := ← r.required? "look_forward" word64?
    alpha := ← r.required? "alpha" Json.float?
    beta := ← r.required? "beta" Json.float?
    gamma := ← r.required? "gamma" Json.float? }

def members (p : SeasonalParams) : List (String × Json.Document) :=
  [("season_length", wordDocument p.seasonLength), ("look_back", wordDocument p.lookBack),
    ("look_forward", wordDocument p.lookForward), ("alpha", .float p.alpha),
    ("beta", .float p.beta), ("gamma", .float p.gamma)]

end SeasonalParams

namespace RemoteParams

def fieldNames : List String :=
  ["address", "resp_recv_address", "look_back", "look_forward", "batch_size", "train_size",
    "epochs", "n_layers"]

def ofJson? (j : Json) : Option RemoteParams := do
  let r ← Json.record? fieldNames j
  pure {
    address := ← r.required? "address" Json.string?
    reportAddress := ← r.required? "resp_recv_address" Json.string?
    lookBack := ← r.required? "look_back" word64?
    lookForward := ← r.required? "look_forward" word64?
    batchSize := ← r.required? "batch_size" word64?
    trainSize := ← r.required? "train_size" word64?
    epochs := ← r.required? "epochs" word64?
    layers := ← r.required? "n_layers" word64? }

def members (p : RemoteParams) : List (String × Json.Document) :=
  [("address", .string p.address), ("resp_recv_address", .string p.reportAddress),
    ("look_back", wordDocument p.lookBack), ("look_forward", wordDocument p.lookForward),
    ("batch_size", wordDocument p.batchSize), ("train_size", wordDocument p.trainSize),
    ("epochs", wordDocument p.epochs), ("n_layers", wordDocument p.layers)]

end RemoteParams

namespace ModelKind

def typeField : String := "type"

/-- The parameters of a model of this type. -/
def ofParams? (type : String) (params : Json) : Option ModelKind :=
  if type = seasonalTag then (SeasonalParams.ofJson? params).map .seasonal
  else if type = remoteTag then (RemoteParams.ofJson? params).map .remote
  else none

/-- A model written with its type as a member or, in an array, as the first element; `room`
is for the containers nested in it, itself included. -/
def ofJson? (room : Nat) (j : Json) : Option ModelKind :=
  match room, j with
  | room + 1, .object members => do
    let named ← Json.namedMembers? members
    let (types, params) := named.partition fun m => m.1 == typeField
    let type ← match types with
      | [(_, t)] => Json.string? t
      | _ => none
    if params.all fun m => (Json.Document.ofJson? room m.2).isSome then
      ofParams? type (.object (params.map fun m => (some m.1, m.2)))
    else none
  | room + 1, .array (t :: params) => do
    let type ← Json.string? t
    if params.all fun x => (Json.Document.ofJson? room x).isSome then
      ofParams? type (.array params)
    else none
  | _, _ => none

def toDocument : ModelKind → Json.Document
  | .seasonal p => .object ((typeField, .string seasonalTag) :: p.members)
  | .remote p => .object ((typeField, .string remoteTag) :: p.members)

end ModelKind

namespace ModelSpec

def fieldNames : List String := ["kind", "need_train", "update_interval"]

def ofJson? (room : Nat) (j : Json) : Option ModelSpec := do
  let r ← Json.record? fieldNames j
  pure {
    kind := ← r.required? "kind" (ModelKind.ofJson? (room - 1))
    needTrain := ← r.required? "need_train" Json.bool?
    updateInterval := ← r.required? "update_interval" Duration.ofJson? }

def toDocument (s : ModelSpec) : Json.Document :=
  .object [("kind", s.kind.toDocument), ("need_train", .bool s.needTrain),
    ("update_interval", s.updateInterval.toDocument)]

end ModelSpec

end PredictiveScaling
