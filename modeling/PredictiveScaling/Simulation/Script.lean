import PredictiveScaling.Duration
import PredictiveScaling.Fault
import PredictiveScaling.KeyMap
import PredictiveScaling.Sample

/-!
# Scripts

How the surroundings of a controller behave in a simulation: what sources answer, how the
orchestrator takes its calls, and what served models say.
-/
namespace PredictiveScaling

/-- The answer to one query. -/
structure ScriptedAnswer where
  delay : Duration
  /-- What comes; without it nothing ever does. -/
  answer : Option (Except SourceError (List Sample))

/-- A source that gives its answers one after the other, the last one again and again. -/
structure ScriptedSource where
  answers : List ScriptedAnswer
  /-- How often it was queried. -/
  queries : Nat

namespace ScriptedSource

def new (answers : List ScriptedAnswer) : ScriptedSource := ⟨answers, 0⟩

/-- Without any answers there are no samples. -/
def silent : ScriptedAnswer := ⟨.zero, some (.ok [])⟩

/-- The answer to the next query. -/
def query (s : ScriptedSource) : ScriptedAnswer × ScriptedSource :=
  match s.answers with
  | [] => (silent, { s with queries := s.queries + 1 })
  | [a] => (a, { s with queries := s.queries + 1 })
  | a :: rest => (a, ⟨rest, s.queries + 1⟩)

end ScriptedSource

/-- How an orchestrator takes its calls. -/
structure OrchestratorMood where
  readFault : Option SourceError
  setFault : Option SourceError
  readDelay : Duration
  /-- Whether a read never ends. -/
  hangs : Bool
  /-- A metric that is gone when a read ends. -/
  deletesMetric : Option String

namespace OrchestratorMood

/-- All goes well and at once. -/
def good : OrchestratorMood := ⟨none, none, .zero, false, none⟩

/-- What a read finds. -/
def readAnswer (m : OrchestratorMood) (replicas : Int32) : Except SourceError Int32 :=
  match m.readFault with
  | some e => .error e
  | none => .ok replicas

/-- How a set goes. -/
def setAnswer (m : OrchestratorMood) : Except SourceError Unit :=
  match m.setFault with
  | some e => .error e
  | none => .ok ()

end OrchestratorMood

/-- An orchestrator that holds one count and counts its calls. -/
structure Orchestrator where
  replicas : Int32
  mood : OrchestratorMood
  reads : Nat
  sets : Nat

namespace Orchestrator

def new (replicas : Int32) : Orchestrator := ⟨replicas, .good, 0, 0⟩

/-- A call that sets the count; it counts also when it fails. -/
def set (o : Orchestrator) (n : Int32) : Except SourceError Unit × Orchestrator :=
  let answer := o.mood.setAnswer
  let replicas := match answer with
    | .ok () => n
    | .error _ => o.replicas
  (answer, { o with replicas, sets := o.sets + 1 })

end Orchestrator

/-- What the server of a model sends; what is missing is never sent. -/
structure ModelScript where
  report : Option (List UInt8)
  reply : Option (List UInt8)

/-- A server of models, by the keys of their predictors. -/
structure ModelServer where
  scripts : KeyMap String ModelScript

namespace ModelServer

/-- The key that stands for all others. -/
def anyKey : String := "*"

/-- The address at which there never is a server. -/
def downAddress : String := "DOWN"

/-- What is sent to the predictor with this key. -/
def script (m : ModelServer) (key : String) : ModelScript :=
  (m.scripts.find? key).getD ((m.scripts.find? anyKey).getD ⟨none, none⟩)

end ModelServer

end PredictiveScaling
