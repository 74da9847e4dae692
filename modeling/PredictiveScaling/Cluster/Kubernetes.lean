import PredictiveScaling.Cluster.Shape.Scalable
import PredictiveScaling.Fault
import PredictiveScaling.Http.Target
import PredictiveScaling.Json.Reader
import PredictiveScaling.Workload

/-!
# Replica counts in Kubernetes

Reading and setting the replica count of a Deployment or a StatefulSet: the requests, and
what the replies say. A failure says itself which code it has; only a reply that is no
failure document is judged by the status of the connection.
-/
namespace PredictiveScaling.Kubernetes

structure ApiRequest where
  method : String
  path : String
  query : String
  contentType : Option String
  body : Option Json.Document

structure ApiReply where
  status : Nat
  body : List UInt8
deriving Repr

/-- What a count is where none is given. -/
def defaultReplicas : Int32 := 1

def fieldManager : String := "forecast-autoscaler"

/-- A kind of objects that can be scaled: its name in paths and the shape of its objects. -/
structure Resource where
  plural : String
  shape : Shape

/-- The kinds that can be scaled. -/
def resources : List (String × Resource) :=
  [("Deployment", ⟨"deployments", .deployment⟩), ("StatefulSet", ⟨"statefulsets", .statefulSet⟩)]

def unsupported (w : Workload) : SourceError :=
  .request ("unsupported workload kind '" ++ w.kind ++ "' for " ++ w.text)

def resource? (w : Workload) : Except SourceError Resource :=
  match resources.lookup w.kind with
  | some r => .ok r
  | none => .error (unsupported w)

/-- The address of a workload. Nothing in it is escaped. -/
def address (w : Workload) (r : Resource) : String :=
  "/apis/apps/v1/namespaces/" ++ w.space ++ "/" ++ r.plural ++ "/" ++ w.name

/-- A request that cannot be made. -/
def unbuilt (why : String) : SourceError :=
  .request ("failed to build request: failed to build request: " ++ why)

/-- The target that an address is; it has to be of printable ASCII. -/
def target? (address : String) : Except SourceError Http.Target :=
  if address.utf8ByteSize > Http.Target.maxLength then .error (unbuilt "uri too long")
  else if address.toList.all (· < '\x7f') then
    match Http.Target.parse? address with
    | some t => .ok t
    | none => .error (unbuilt "invalid uri character")
  else .error (unbuilt "invalid uri character")

/-- The query of a target without the marks before its first pair. -/
def queryOf (t : Http.Target) : String :=
  String.ofList ((t.query.getD "").toList.dropWhile (· = '&'))

def readRequest (w : Workload) : Except SourceError ApiRequest := do
  let r ← resource? w
  let t ← target? (address w r)
  pure ⟨"GET", t.path, queryOf t, none, none⟩

def setRequest (w : Workload) (replicas : Int32) : Except SourceError ApiRequest := do
  let r ← resource? w
  let t ← target? (address w r ++ "?&fieldManager=" ++ fieldManager)
  pure {
    method := "PATCH", path := t.path, query := queryOf t
    contentType := some "application/merge-patch+json"
    body := some (.object [("spec", .object [("replicas", .int replicas.toInt)])]) }

/-! ## Replies -/

/-- The code in a failure document. -/
def failureCode? (j : Json) : Option Nat := do
  let r ← Json.record? ["status", "message", "reason", "code"] j
  let _ ← r.required? "status" Json.string?
  let _ ← r.withDefault? "message" "" Json.string?
  let _ ← r.withDefault? "reason" "" Json.string?
  r.required? "code" (Json.nat? 65535)

/-- The last member of this name. -/
def member? (name : String) : Json → Option Json
  | .object members => members.reverse.lookup (some name)
  | _ => none

/-- The count in an object of a shape; none where it is left open. -/
def objectReplicas? (shape : Shape) (j : Json) : Option (Option Int32) :=
  if shape.fits Json.maxNesting j then
    some (((member? "spec" j).bind (member? "replicas")).bind Json.int32?)
  else none

/-- The tree of a reply, whose bytes have to be a text. -/
def tree? (body : List UInt8) : Option Json :=
  (String.fromUTF8? ⟨body.toArray⟩).bind fun _ => Json.parse? body

/-- What a failed call means for the workload. -/
def failure (w : Workload) (code : Nat) : SourceError :=
  if code = 404 then .notFound w.text else .request ("status " ++ toString code)

/-- The count in a reply; none where it is left open. -/
def replicasOfReply (w : Workload) (shape : Shape) (r : ApiReply) :
    Except SourceError (Option Int32) :=
  if 400 ≤ r.status ∧ r.status < 600 then
    match String.fromUTF8? ⟨r.body.toArray⟩ with
    | none => .error (.request "not a text")
    | some _ =>
      .error (failure w (((Json.parse? r.body).bind failureCode?).getD r.status))
  else
    match (tree? r.body).bind (objectReplicas? shape) with
    | some n => .ok n
    | none => .error (.request "not an object of this kind")

/-- The current count of a workload, given the reply to the request for it. -/
def readReplicas (w : Workload) (reply : ApiRequest → ApiReply) : Except SourceError Int32 := do
  let r ← resource? w
  let request ← readRequest w
  let n ← replicasOfReply w r.shape (reply request)
  pure (n.getD defaultReplicas)

/-- Set the count of a workload, given the reply to the request to do so. -/
def setReplicas (w : Workload) (n : Int32) (reply : ApiRequest → ApiReply) :
    Except SourceError Unit := do
  let r ← resource? w
  let request ← setRequest w n
  let _ ← replicasOfReply w r.shape (reply request)
  pure ()

end PredictiveScaling.Kubernetes
