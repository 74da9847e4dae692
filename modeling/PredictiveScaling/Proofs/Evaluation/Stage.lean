import PredictiveScaling.Controller.Step

/-!
# The stage of an evaluation

Most of what a controller does is without consequence for its rounds. The stage is what
matters to them: what is installed, the scaler, the rounds themselves, and the counts that
are set. Whatever belongs to collecting, training or reporting leaves the stage as it is;
the rest changes a single round at a time.
-/
namespace PredictiveScaling

/-- What a visit to the predictors depends on. -/
structure Installed where
  metrics : KeyMap String Metric
  models : KeyMap String ModelSpec
  predictors : KeyMap String Nat

def Store.installed (s : Store) : Installed := ⟨s.metrics, s.models, s.predictors⟩

/-- The metric that a predictor works on, if it has a model. -/
def Installed.metricFor? (x : Installed) (key : String) : Option Metric :=
  match x.models.find? key, splitPredictorKey? key with
  | some _, some (metricKey, _) => x.metrics.find? metricKey
  | _, _ => none

/-- A count that is set, with the round it is set for. -/
def Call.set? : Call → Option (Nat × Int32)
  | .setCount id n => some (id, n)
  | _ => none

/-- What matters to rounds. -/
structure Stage where
  installed : Installed
  scaler : Scaler
  evaluations : Arena Evaluation
  /-- The counts that were set, with the rounds they were set for. -/
  sets : List (Nat × Int32)

def Stage.put (s : Stage) (id : Nat) (e : Evaluation) : Stage :=
  { s with evaluations := s.evaluations.modify id fun _ => e }

namespace Controller

def stage (c : Controller) : Stage :=
  ⟨c.store.installed, c.scaler, c.evaluations, c.outbox.filterMap Call.set?⟩

variable (c : Controller)

@[simp] theorem stage_evaluations : c.stage.evaluations = c.evaluations := rfl

/-! ## Calls and reports -/

theorem stage_call (x : Call) :
    (c.call x).stage = { c.stage with sets := c.stage.sets ++ x.set?.toList } := by
  simp only [stage, call, List.filterMap_append, List.filterMap_cons, List.filterMap_nil]
  cases x.set? <;> rfl

/-- A call that sets no count. -/
theorem stage_call_of_set?_eq_none {x : Call} (h : x.set? = none) : (c.call x).stage = c.stage := by
  rw [stage_call, h, Option.toList_none, List.append_nil]

@[simp] theorem stage_soon (e : Event) : (c.soon e).stage = c.stage :=
  c.stage_call_of_set?_eq_none rfl

@[simp] theorem stage_setCollectionLoop (id : Nat) (l : CollectionLoop) :
    (c.setCollectionLoop id l).stage = c.stage := rfl

@[simp] theorem stage_setEvaluationLoop (id : Nat) (l : EvaluationLoop) :
    (c.setEvaluationLoop id l).stage = c.stage := rfl

@[simp] theorem stage_setEvaluation (id : Nat) (e : Evaluation) :
    (c.setEvaluation id e).stage = c.stage.put id e := rfl

@[simp] theorem stage_reportHealthy (component : String) :
    (c.reportHealthy component).stage = c.stage := rfl

@[simp] theorem stage_reportDegraded (component message : String) :
    (c.reportDegraded component message).stage = c.stage := rfl

@[simp] theorem stage_forgetHealth (component : String) :
    (c.forgetHealth component).stage = c.stage := rfl

@[simp] theorem stage_count (f : Telemetry → Telemetry) : (c.count f).stage = c.stage := rfl

@[simp] theorem stage_countFault (e : PredictError) : (c.countFault e).stage = c.stage := rfl

/-! ## Collecting -/

@[simp] theorem stage_awaitCollectionTick (id : Nat) (l : CollectionLoop) :
    (c.awaitCollectionTick id l).stage = c.stage := by
  rw [awaitCollectionTick]
  rw [stage_call_of_set?_eq_none _ rfl]
  split <;> simp

@[simp] theorem stage_endCollection (id : Nat) (l : CollectionLoop) :
    (c.endCollection id l).stage = c.stage := by
  unfold endCollection
  dsimp only
  split <;> simp

@[simp] theorem stage_startCollection (id : Nat) (l : CollectionLoop) :
    (c.startCollection id l).stage = c.stage := by
  unfold startCollection
  dsimp only
  split <;> split <;> simp

@[simp] theorem stage_tickCollection (id : Nat) (l : CollectionLoop) :
    (c.tickCollection id l).stage = c.stage := by
  rw [tickCollection]
  dsimp only
  split
  · rw [stage_call_of_set?_eq_none _ rfl, stage_setCollectionLoop]
  · rw [stage_endCollection]

@[simp] theorem stage_takeAnswer (collector : Nat)
    (answer : Option (Except SourceError (List Sample))) :
    (c.takeAnswer collector answer).stage = c.stage := by
  simp only [takeAnswer]
  split <;> rfl

@[simp] theorem stage_endQuery (id : Nat) (l : CollectionLoop)
    (answer : Option (Except SourceError (List Sample))) :
    (c.endQuery id l answer).stage = c.stage := by
  unfold endQuery
  dsimp only
  rw [stage_awaitCollectionTick]
  split
  · split <;> simp
  · simp

@[simp] theorem stage_signalCollection (id : Nat) : (c.signalCollection id).stage = c.stage := by
  rw [signalCollection]
  split
  · rfl
  · dsimp only
    split <;> simp

@[simp] theorem stage_spawnCollection (l : CollectionLoop) :
    (c.spawnCollection l).2.stage = c.stage := by
  rw [spawnCollection]
  dsimp only
  rw [stage_soon]
  rfl

/-! ## Training -/

@[simp] theorem stage_putRemote (id : Nat) (r : RemotePredictor) (sockets : Sockets) :
    (c.putRemote id r sockets).stage = c.stage := rfl

@[simp] theorem stage_beginTraining (id : Nat) : (c.beginTraining id).2.stage = c.stage := by
  rw [beginTraining]
  split <;> rfl

@[simp] theorem stage_awaitRound (a : AwaitedRound) : (c.awaitRound a).stage = c.stage := by
  rw [awaitRound]
  rw [stage_call_of_set?_eq_none _ rfl]
  rfl

@[simp] theorem stage_endDispatch (id : Nat) (d : Dispatch) (watched : Bool)
    (result : Except PredictError Unit) : (c.endDispatch id d watched result).stage = c.stage := by
  rw [endDispatch]
  split
  · dsimp only
    split <;> simp
  · rfl

@[simp] theorem stage_abandonDispatch (id : Nat) (d : Dispatch) :
    (c.abandonDispatch id d).stage = c.stage := by
  rw [abandonDispatch]
  split <;> rfl

@[simp] theorem stage_announceTraining (key : String) (outcome : TrainingOutcome) :
    (c.announceTraining key outcome).stage = c.stage := by
  rw [announceTraining]
  rw [stage_call_of_set?_eq_none _ rfl, stage_count]

@[simp] theorem stage_endTraining (id round : Nat) (arrival : Arrival) :
    (c.endTraining id round arrival).stage = c.stage := by
  rw [endTraining]
  split
  · dsimp only
    split
    · rw [stage_announceTraining]
      rfl
    · rfl
  · rfl

@[simp] theorem stage_recordTraining (key : String) (id : Nat) :
    (c.recordTraining key id).stage = c.stage := rfl

end Controller

end PredictiveScaling
