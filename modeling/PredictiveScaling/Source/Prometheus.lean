import PredictiveScaling.Decimal.Reading
import PredictiveScaling.Fault
import PredictiveScaling.Http.Status
import PredictiveScaling.Json.Reader
import PredictiveScaling.Json.Record
import PredictiveScaling.Json.Document
import PredictiveScaling.Sample
import PredictiveScaling.Text.Form
import PredictiveScaling.Timestamp

/-!
# Instant queries to Prometheus

The request of an instant query and the samples in its answer. A point of the answer is a
pair of seconds and a text; it becomes a sample when the text is a finite number and the
time a point in time, and is passed over otherwise.
-/
namespace PredictiveScaling.Prometheus

/-- Seconds since 1970 and the text of the value. -/
structure Point where
  seconds : Float
  value : String
deriving Repr

/-- The data of an answer, by type of result. -/
inductive Data where
  | vector (points : List Point)
  | scalar (point : Point)
  | matrix (series : List (List Point))
  | string (point : Point)
deriving Repr

structure Answer where
  status : String
  data : Option Data
  error : Option String
deriving Repr

/-! ## The request -/

/-- Milliseconds as seconds with three places. -/
def secondsText (ms : Int) : String :=
  let part := toString (ms.natAbs % 1000)
  (if ms < 0 then "-" else "") ++ toString (ms.natAbs / 1000) ++ "." ++
    String.ofList (List.replicate (3 - part.length) '0') ++ part

/-- The path of instant queries behind a base address without slashes at its end. -/
def queryAddress (base : String) : String :=
  String.ofList ((base.toList.reverse.dropWhile (· = '/')).reverse) ++ "/api/v1/query"

/-- The address of the query for an expression at a time. -/
def requestAddress (base expression : String) (ms : Int) : String :=
  queryAddress base ++ "?" ++
    Text.formQuery [("query", expression), ("time", secondsText ms)]

/-! ## The answer -/

def Point.ofJson? : Json → Option Point
  | .array [seconds, value] => do
    pure ⟨← Json.float? seconds, ← Json.string? value⟩
  | _ => none

/-- The one point of a series in a vector. -/
def seriesPoint? (j : Json) : Option Point := do
  let r ← Json.record? ["value"] j
  r.required? "value" Point.ofJson?

/-- The points of a series in a matrix. -/
def seriesPoints? (j : Json) : Option (List Point) := do
  let r ← Json.record? ["values"] j
  r.required? "values" (Json.list? Point.ofJson?)

namespace Data

/-- Readers of the result by its type. -/
def readers : List (String × (Json → Option Data)) :=
  [("vector", fun j => (Json.list? seriesPoint? j).map .vector),
    ("scalar", fun j => (Point.ofJson? j).map .scalar),
    ("matrix", fun j => (Json.list? seriesPoints? j).map .matrix),
    ("string", fun j => (Point.ofJson? j).map .string)]

/-- How many containers a result may nest that stands before its type. -/
def resultRoom : Nat := Json.maxNesting - 2

/-- A result with its type. A result that comes first is taken in whole before its type is
known, so everything in it has to have a value. -/
def ofJson? : Json → Option Data
  | .array [type, result] => do (← Json.choice? readers type) result
  | .object members => do
    let named ← Json.namedMembers? members
    match named.filter fun m => m.1 = "resultType" ∨ m.1 = "result" with
    | [("resultType", type), ("result", result)] => (← Json.choice? readers type) result
    | [("result", result), ("resultType", type)] =>
      if (Json.Document.ofJson? resultRoom result).isSome then
        (← Json.choice? readers type) result
      else none
    | _ => none
  | _ => none

/-- All points in the order of the answer; a string has none. -/
def points : Data → List Point
  | .vector ps => ps
  | .scalar p => [p]
  | .matrix series => series.flatten
  | .string _ => []

end Data

def Answer.ofJson? (j : Json) : Option Answer := do
  let r ← Json.record? ["status", "data", "error"] j
  pure {
    status := ← r.required? "status" Json.string?
    data := ← r.withDefault? "data" none (Json.nullable? Data.ofJson?)
    error := ← r.withDefault? "error" none (Json.nullable? Json.string?) }

/-- The sample that a point is, if it is one. -/
def Point.sample? (p : Point) : Option Sample :=
  match Decimal.readFloat? p.value with
  | some value =>
    let ms := Decimal.wholeWord (p.seconds * 1000.0)
    if Decimal.isFinite value ∧ Timestamp.inRange ms then some ⟨value, ms⟩ else none
  | none => none

def Data.samples (d : Data) : List Sample := d.points.filterMap Point.sample?

/-- The samples in the answer to a query. -/
def samplesOfReply (status : Nat) (body : List UInt8) : Except SourceError (List Sample) :=
  match (Json.parse? body).bind Answer.ofJson? with
  | none => .error (.response ("HTTP " ++ Http.statusText status))
  | some a =>
    if a.status ≠ "success" then
      .error (.response (a.error.getD ("query failed with HTTP " ++ Http.statusText status)))
    else .ok ((a.data.map Data.samples).getD [])

/-- A query: without a connection there is no reply. -/
def query (reply : Option (Nat × List UInt8)) : Except SourceError (List Sample) :=
  match reply with
  | none => .error (.request "no connection")
  | some (status, body) => samplesOfReply status body

end PredictiveScaling.Prometheus
