import PredictiveScaling.Proofs.Controller.Visiting
import PredictiveScaling.Proofs.Health.Component

/-!
# Views

Training and evaluating touch few parts of a controller. What is seen of a controller without
these parts stays the same while models are trained and rounds go on, whatever it is. Two things
that rounds do may show: the trainings that are kept in mind belong to the store, and a visit to
predictors is where they come in; and of all health reports only those of the workload itself
are theirs.
-/
namespace PredictiveScaling

/-- The loop and the collector of a query. -/
def Call.query? : Call → Option (Nat × Nat)
  | .query loop collector _ => some (loop, collector)
  | _ => none

namespace Controller

/-- A view in which nothing of rounds and their reports shows, and no calls but queries. -/
structure OverlooksRounds {α : Type} (view : Controller → α) : Prop where
  call : ∀ c x, x.query? = none → view (c.call x) = view c
  evaluations : ∀ c evaluations, view { c with evaluations } = view c
  evaluationLoops : ∀ c evaluationLoops, view { c with evaluationLoops } = view c
  scaler : ∀ c scaler, view { c with scaler } = view c
  reports : ∀ c component entry, component ∈ c.workload.ownComponents →
    view { c with health := c.health.update component entry } = view c
  telemetry : ∀ c telemetry, view { c with telemetry } = view c

/-- Nothing of trainings shows either. -/
structure Overlooks {α : Type} (view : Controller → α) : Prop extends OverlooksRounds view where
  awaited : ∀ c awaited, view { c with awaited } = view c
  putRemote : ∀ c id r sockets, view (c.putRemote id r sockets) = view c

/-- A view in which nothing of collecting shows. -/
structure OverlooksCollecting {α : Type} (view : Controller → α) : Prop where
  wake : ∀ c due e, view (c.call (.wake due e)) = view c
  query : ∀ c loop collector timeout, view (c.call (.query loop collector timeout)) = view c
  collectionLoops : ∀ c collectionLoops, view { c with collectionLoops } = view c
  collectors : ∀ c collectors, view { c with collectors } = view c
  health : ∀ c health, view { c with health } = view c
  telemetry : ∀ c telemetry, view { c with telemetry } = view c

/-- A controller stays that of its workload. -/
theorem overlooks_workload : Overlooks Controller.workload where
  call _ _ _ := rfl
  evaluations _ _ := rfl
  evaluationLoops _ _ := rfl
  awaited _ _ := rfl
  scaler _ _ := rfl
  reports _ _ _ _ := rfl
  telemetry _ _ := rfl
  putRemote _ _ _ _ := rfl

namespace OverlooksRounds

variable {α : Type} {view : Controller → α} (h : OverlooksRounds view) (c : Controller)
include h

/-! ## Reports -/

theorem soon (e : Event) : view (c.soon e) = view c := h.call c _ rfl

theorem setEvaluation (id : Nat) (e : Evaluation) : view (c.setEvaluation id e) = view c :=
  h.evaluations c _

theorem setEvaluationLoop (id : Nat) (l : EvaluationLoop) :
    view (c.setEvaluationLoop id l) = view c :=
  h.evaluationLoops c _

variable {component : String}

theorem reportHealthy (own : component ∈ c.workload.ownComponents) :
    view (c.reportHealthy component) = view c :=
  h.reports c _ _ own

theorem reportDegraded (own : component ∈ c.workload.ownComponents) (message : String) :
    view (c.reportDegraded component message) = view c :=
  h.reports c _ _ own

theorem count (f : Telemetry → Telemetry) : view (c.count f) = view c := h.telemetry c _

theorem countFault (e : PredictError) : view (c.countFault e) = view c := h.count c _

/-! ## Evaluating -/

theorem awaitEvaluationTick (id : Nat) (l : EvaluationLoop) :
    view (c.awaitEvaluationTick id l) = view c := by
  simp only [Controller.awaitEvaluationTick]
  rw [h.call _ _ rfl]
  split
  · rw [h.soon, h.setEvaluationLoop]
  · rw [h.setEvaluationLoop]

theorem resumeOwner (id : Nat) (owner : Option Nat) : view (c.resumeOwner id owner) = view c := by
  simp only [Controller.resumeOwner]
  split
  · rfl
  · split
    · split
      · exact h.awaitEvaluationTick c _ _
      · rfl
    · rfl

theorem endEvaluation (id : Nat) (e : Evaluation) (report : EvaluationReport) :
    view (c.endEvaluation id e report) = view c := by
  rw [Controller.endEvaluation, h.resumeOwner, h.setEvaluation]

theorem showBuffers : view c.showBuffers = view c := by
  rw [Controller.showBuffers]
  generalize c.store.collectors.toList = l
  induction l generalizing c with
  | nil => rfl
  | cons x l ih => rw [List.foldl_cons, ih, h.count]

theorem setGoal (id : Nat) (e : Evaluation) : view (c.setGoal id e) = view c := by
  have own : schedulerComponent c.workload ∈ c.workload.ownComponents := List.mem_cons_self
  rw [Controller.setGoal]
  split
  · dsimp only
    split
    · rw [← overlooks_workload.showBuffers c] at own ⊢
      rw [h.endEvaluation, h.reportDegraded _ own, h.showBuffers]
    · rw [h.endEvaluation, h.showBuffers]
  · dsimp only
    split
    · rw [h.endEvaluation, h.reportHealthy c own]
    · rw [h.call _ _ rfl, h.setEvaluation, h.reportHealthy c own]

theorem settle (id : Nat) : view (c.settle id) = view c := by
  rw [Controller.settle]
  split
  · split
    · exact h.setGoal c _ _
    · rfl
  · rfl

theorem endAttempt (id : Nat) (e : Evaluation) (goal : Goal)
    (result : Except ScaleError ScaleAction) : view (c.endAttempt id e goal result) = view c := by
  have own : scalerComponent c.workload ∈ c.workload.ownComponents :=
    List.mem_cons_of_mem _ List.mem_cons_self
  cases result with
  | ok action =>
    simp only [Controller.endAttempt]
    rw [h.endEvaluation]
    refine (h.reportHealthy _ ?_).trans ?_
    · exact own
    · rw [h.call _ _ rfl, h.count]
  | error error =>
    simp only [Controller.endAttempt]
    rw [h.endEvaluation, h.reportDegraded c own]

theorem readGoalCount (id : Nat) (e : Evaluation) (goal : Goal)
    (count : Except SourceError Int32) : view (c.readGoalCount id e goal count) = view c := by
  cases count with
  | error cause =>
    simp only [Controller.readGoalCount]
    exact h.endAttempt c _ _ _ _
  | ok current =>
    simp only [Controller.readGoalCount]
    split
    · rw [h.endAttempt, h.scaler, h.count]
    · rw [h.call _ _ rfl, h.setEvaluation, h.scaler, h.count]

theorem endGoalSet (id : Nat) (e : Evaluation) (goal : Goal) (action : ScaleAction)
    (result : Except SourceError Unit) : view (c.endGoalSet id e goal action result) = view c :=
  h.endAttempt c _ _ _ _

theorem endPrediction (id i : Nat) (e : Evaluation) (key : String)
    (counts : Option (List Int32)) : view (c.endPrediction id i e key counts) = view c := by
  simp only [Controller.endPrediction]
  rw [h.settle, h.setEvaluation]

theorem takeForecast (id i : Nat) (e : Evaluation) (p : Prediction)
    (forecast : Except PredictError Forecast) :
    view (c.takeForecast id i e p forecast) = view c := by
  cases forecast with
  | error error =>
    simp only [Controller.takeForecast]
    rw [h.endPrediction, h.countFault, h.count]
  | ok f =>
    simp only [Controller.takeForecast]
    split
    · rw [h.call _ _ rfl, h.setEvaluation, h.count]
    · rw [h.endPrediction, h.count]

theorem startPrediction (id i : Nat) (e : Evaluation) (p : Prediction) :
    view (c.startPrediction id i e p) = view c := by
  rw [Controller.startPrediction]
  split
  · exact h.endPrediction c _ _ _ _ _
  · dsimp only
    split
    · split
      · exact h.takeForecast c _ _ _ _ _
      · exact h.endPrediction c _ _ _ _ _
    · split
      · exact h.takeForecast c _ _ _ _ _
      · rw [h.call _ _ rfl, h.setEvaluation]

theorem readPredictionCount (id i : Nat) (e : Evaluation) (p : Prediction) (forecast : Forecast)
    (count : Except SourceError Int32) :
    view (c.readPredictionCount id i e p forecast count) = view c := by
  rw [Controller.readPredictionCount.eq_def]
  split
  · exact h.endPrediction c _ _ _ _ _
  · exact h.endPrediction c _ _ _ _ _

theorem spawnPrediction (id : Nat) (key : String) (predictor : Nat) (target : Float) :
    view (c.spawnPrediction id key predictor target) = view c := by
  rw [Controller.spawnPrediction]
  split
  · rfl
  · rw [h.soon, h.setEvaluation]

theorem suspendVisit (id : Nat) (key : String) (predictor : Nat) (d : Dispatch)
    (rest : List (String × Nat)) : view (c.suspendVisit id key predictor d rest) = view c := by
  rw [Controller.suspendVisit]
  split
  · rfl
  · rw [h.call _ _ rfl, h.setEvaluation]

theorem startEvaluationLoop (id : Nat) (l : EvaluationLoop) :
    view (c.startEvaluationLoop id l) = view c := by
  rw [Controller.startEvaluationLoop]
  split
  · exact h.setEvaluationLoop c _ _
  · exact h.awaitEvaluationTick c _ _

theorem signalEvaluationLoop (id : Nat) : view (c.signalEvaluationLoop id) = view c := by
  rw [Controller.signalEvaluationLoop]
  split
  · rfl
  · dsimp only
    split
    · exact h.setEvaluationLoop c _ _
    · rw [h.soon, h.setEvaluationLoop]

end OverlooksRounds

namespace Overlooks

variable {α : Type} {view : Controller → α} (h : Overlooks view) (c : Controller)
include h

/-! ## Training -/

theorem beginTraining (id : Nat) : view (c.beginTraining id).2 = view c := by
  rw [Controller.beginTraining]
  split
  · exact h.putRemote c _ _ _
  · rfl

theorem awaitRound (a : AwaitedRound) : view (c.awaitRound a) = view c :=
  (h.call _ _ rfl).trans (h.awaited c _)

theorem endDispatch (id : Nat) (d : Dispatch) (watched : Bool)
    (result : Except PredictError Unit) : view (c.endDispatch id d watched result) = view c := by
  rw [Controller.endDispatch]
  split
  · dsimp only
    split
    · rw [h.awaitRound, h.putRemote]
    · rw [h.putRemote]
  · rfl

theorem abandonDispatch (id : Nat) (d : Dispatch) : view (c.abandonDispatch id d) = view c := by
  rw [Controller.abandonDispatch]
  split
  · exact h.putRemote c _ _ _
  · rfl

theorem announceTraining (key : String) (outcome : TrainingOutcome) :
    view (c.announceTraining key outcome) = view c :=
  (h.call _ _ rfl).trans (h.count c _)

theorem endTraining (id round : Nat) (arrival : Arrival) :
    view (c.endTraining id round arrival) = view c := by
  rw [Controller.endTraining]
  split
  · dsimp only
    split
    · rw [h.announceTraining, h.awaited, h.putRemote]
    · rw [h.awaited, h.putRemote]
  · rfl

theorem takeReply (id i : Nat) (e : Evaluation) (p : Prediction) (request : PredictRequest)
    (reply : Except PredictError PredictReply) :
    view (c.takeReply id i e p request reply) = view c := by
  rw [Controller.takeReply]
  split
  · dsimp only
    rw [h.takeForecast, h.putRemote]
  · exact h.endPrediction c _ _ _ _ _

theorem abandonEvaluation (id : Nat) : view (c.abandonEvaluation id) = view c := by
  rw [Controller.abandonEvaluation]
  split
  · rfl
  · dsimp only
    rw [h.setEvaluation]
    split
    · exact h.abandonDispatch c _ _
    · rfl

theorem endEvaluationLoop (id : Nat) (l : EvaluationLoop) :
    view (c.endEvaluationLoop id l) = view c := by
  simp only [Controller.endEvaluationLoop]
  rw [h.setEvaluationLoop]
  split
  · exact h.abandonEvaluation c _
  · rfl

/-! ## Visiting -/

variable (trainings : ∀ c key id, view (Controller.recordTraining c key id) = view c)
include trainings

theorem visit (id : Nat) (l : List (String × Nat)) : view (c.visit id l) = view c := by
  induction l generalizing c with
  | nil => exact h.settle c id
  | cons x rest ih =>
    obtain ⟨key, predictor⟩ := x
    rw [Controller.visit]
    have hcomes := c.comes_comeTo id key predictor
    generalize c.comeTo id key predictor = come at hcomes ⊢
    cases hcomes with
    | missing => exact ih c
    | @called model metric c₁ _ _ asked calls =>
      have hspawn := h.spawnPrediction c id key predictor metric.target
      rw [asked] at hspawn
      have hbegin := (h.beginTraining c₁ predictor).trans hspawn
      cases calls with
      | spared => exact (ih c₁).trans hspawn
      | @refused error c₂ _ begins =>
        rw [begins] at hbegin
        exact (ih _).trans ((h.countFault c₂ error).trans hbegin)
      | @trained c₂ _ begins =>
        rw [begins] at hbegin
        exact (ih _).trans ((trainings c₂ key predictor).trans hbegin)
      | @sending d c₂ _ begins =>
        rw [begins] at hbegin
        exact (h.suspendVisit c₂ id key predictor d rest).trans hbegin

theorem resumed (id : Nat) (e : Evaluation) (key : String) (predictor : Nat) (d : Dispatch)
    (result : Except PredictError Unit) :
    view (c.resumed id e key predictor d result) = view c := by
  have hend := (h.endDispatch (c.setEvaluation id { e with phase := .joining }) predictor d true
    result).trans (h.setEvaluation c id _)
  cases result with
  | ok u => exact (trainings _ key predictor).trans hend
  | error error => exact (h.countFault _ error).trans hend

theorem resumeVisit (id : Nat) (e : Evaluation) (key : String) (predictor : Nat) (d : Dispatch)
    (rest : List (String × Nat)) (result : Except PredictError Unit) :
    view (c.resumeVisit id e key predictor d rest result) = view c := by
  rw [Controller.resumeVisit, h.visit _ trainings, h.resumed _ trainings]

theorem beginEvaluation (owner : Option Nat) : view (c.beginEvaluation owner) = view c := by
  rw [Controller.beginEvaluation, h.visit _ trainings, begun, h.evaluations, h.count]

theorem tickEvaluationLoop (id : Nat) (l : EvaluationLoop) :
    view (c.tickEvaluationLoop id l) = view c := by
  rw [Controller.tickEvaluationLoop, h.beginEvaluation _ trainings, ticked, h.setEvaluationLoop]

end Overlooks

namespace OverlooksCollecting

variable {α : Type} {view : Controller → α} (h : OverlooksCollecting view) (c : Controller)
include h

/-! ## Collecting -/

theorem setCollectionLoop (id : Nat) (l : CollectionLoop) :
    view (c.setCollectionLoop id l) = view c :=
  h.collectionLoops c _

theorem awaitCollectionTick (id : Nat) (l : CollectionLoop) :
    view (c.awaitCollectionTick id l) = view c := by
  simp only [Controller.awaitCollectionTick]
  rw [h.wake]
  split
  · rw [Controller.soon, h.wake, h.setCollectionLoop]
  · rw [h.setCollectionLoop]

theorem endCollection (id : Nat) (l : CollectionLoop) : view (c.endCollection id l) = view c := by
  simp only [Controller.endCollection]
  split
  · exact (h.health _ _).trans (h.setCollectionLoop c id _)
  · exact h.setCollectionLoop c id _

theorem startCollection (id : Nat) (l : CollectionLoop) :
    view (c.startCollection id l) = view c := by
  simp only [Controller.startCollection]
  have hreport : view (if l.reports = true then c.reportHealthy (collectorComponent l.key) else c) =
      view c := by
    split
    · exact h.health c _
    · rfl
  split
  · exact (h.setCollectionLoop _ id _).trans hreport
  · exact (h.awaitCollectionTick _ id _).trans hreport

theorem tickCollection (id : Nat) (l : CollectionLoop) :
    view (c.tickCollection id l) = view c := by
  simp only [Controller.tickCollection]
  split
  · rw [h.query, h.setCollectionLoop]
  · exact h.endCollection c id _

theorem takeAnswer (collector : Nat) (answer : Option (Except SourceError (List Sample))) :
    view (c.takeAnswer collector answer) = view c := by
  cases answer with
  | none => rfl
  | some a => exact h.collectors c _

theorem endQuery (id : Nat) (l : CollectionLoop)
    (answer : Option (Except SourceError (List Sample))) :
    view (c.endQuery id l answer) = view c := by
  simp only [Controller.endQuery]
  rw [h.awaitCollectionTick]
  have hcount : ∀ f, view ((c.takeAnswer l.collector answer).count f) = view c :=
    fun f => (h.telemetry _ _).trans (h.takeAnswer c l.collector answer)
  split
  · split
    · exact (h.health _ _).trans (hcount _)
    · exact (h.health _ _).trans (hcount _)
  · exact hcount _

theorem signalCollection (id : Nat) : view (c.signalCollection id) = view c := by
  rw [Controller.signalCollection]
  split
  · rfl
  · dsimp only
    split
    · rw [Controller.soon, h.wake, h.setCollectionLoop]
    · rw [h.setCollectionLoop]

theorem signalIfAny (loop : Option Nat) : view (c.signalIfAny loop) = view c := by
  cases loop with
  | none => rfl
  | some id => exact h.signalCollection c id

theorem spawnCollection (l : CollectionLoop) : view (c.spawnCollection l).2 = view c :=
  (h.wake _ _ _).trans (h.collectionLoops c _)

theorem stop (metricKey : String) : view (c.stop metricKey).2 = view c := by
  rw [Controller.stop]
  split
  · rfl
  · exact h.signalCollection c _

end OverlooksCollecting

/-! ## Events and signals -/

section

variable {α : Type} {view : Controller → α} {c : Controller} {id i : Nat}

theorem view_foldl {f : Controller → Nat → Controller} (h : ∀ c id, view (f c id) = view c)
    (ids : List Nat) (c : Controller) : view (ids.foldl f c) = view c := by
  induction ids generalizing c with
  | nil => rfl
  | cons id ids ih => exact (ih (f c id)).trans (h c id)

/-- Of the process that shuts down no more shows than that collection loops are told. -/
theorem Overlooks.shutDown (h : Overlooks view) (c : Controller) :
    view c.shutDown.2 = view (c.aliveCollections.foldl signalCollection c) :=
  view_foldl h.signalEvaluationLoop _ _

theorem view_atCollection {phase : CollectionPhase} {f : CollectionLoop → Controller}
    (h : ∀ l, view (f l) = view c) : view (c.atCollection id phase f) = view c := by
  rw [atCollection]
  split
  · split
    · exact h _
    · rfl
  · rfl

theorem view_atEvaluationLoop {f : EvaluationLoop → Controller} (h : ∀ l, view (f l) = view c) :
    view (c.atEvaluationLoop id f) = view c := by
  rw [atEvaluationLoop]
  split
  · exact h _
  · rfl

theorem view_atEvaluation {f : Evaluation → Controller} (h : ∀ e, view (f e) = view c) :
    view (c.atEvaluation id f) = view c := by
  rw [atEvaluation]
  split
  · exact h _
  · rfl

theorem view_atPrediction {f : Evaluation → Prediction → Controller}
    (h : ∀ e p, view (f e p) = view c) : view (c.atPrediction id i f) = view c := by
  refine view_atEvaluation fun e => ?_
  split
  · split
    · rfl
    · exact h _ _
  · rfl

end

end Controller

/-- Whether an event belongs to a collection loop. -/
def Event.collects : Event → Bool
  | .collectionStarts _ | .collectionDue _ | .collectionSignalled _ | .queryEnds .. => true
  | _ => false

/-- Whether an event may make a round visit predictors. -/
def Event.visits : Event → Bool
  | .evaluationLoopDue _ | .dispatchEnds .. => true
  | _ => false

/-- What collection loops do does not show. -/
theorem Controller.OverlooksCollecting.handle {α : Type} {view : Controller → α}
    (h : OverlooksCollecting view) (c : Controller) {x : Event} (collects : x.collects = true) :
    view (c.handle x) = view c := by
  cases x with
  | collectionStarts id => exact view_atCollection fun l => h.startCollection c id l
  | collectionDue id => exact view_atCollection fun l => h.tickCollection c id l
  | collectionSignalled id =>
    refine view_atCollection fun l => ?_
    split
    · exact h.endCollection c id l
    · rfl
  | queryEnds id answer => exact view_atCollection fun l => h.endQuery c id l answer
  | _ => cases collects

namespace Controller.Overlooks

variable {α : Type} {view : Controller → α} (h : Overlooks view) (c : Controller)
include h

/-- An event of any other kind does not show. -/
theorem handle_of_not_visits (x : Event) (other : x.collects = false) (idle : x.visits = false) :
    view (c.handle x) = view c := by
  cases x with
  | collectionStarts id => cases other
  | collectionDue id => cases other
  | collectionSignalled id => cases other
  | queryEnds id answer => cases other
  | evaluationLoopDue id => cases idle
  | dispatchEnds id result => cases idle
  | evaluationLoopStarts id =>
    refine view_atEvaluationLoop fun l => ?_
    split
    · exact h.startEvaluationLoop c id l
    · rfl
  | evaluationLoopSignalled id =>
    refine view_atEvaluationLoop fun l => ?_
    split
    · exact h.endEvaluationLoop c id l
    · rfl
  | predictionStarts id i =>
    refine view_atPrediction fun e p => ?_
    split
    · exact h.startPrediction c id i e p
    · rfl
  | replyArrives id i reply =>
    refine view_atPrediction fun e p => ?_
    split
    · exact h.takeReply c id i e p _ reply
    · rfl
  | predictionCount id i count =>
    refine view_atPrediction fun e p => ?_
    split
    · exact h.readPredictionCount c id i e p _ count
    · rfl
  | goalCount id count =>
    refine view_atEvaluation fun e => ?_
    split
    · exact h.readGoalCount c id e _ count
    · rfl
  | goalSet id result =>
    refine view_atEvaluation fun e => ?_
    split
    · exact h.endGoalSet c id e _ _ result
    · rfl
  | trainingEnds id round arrival => exact h.endTraining c id round arrival

/-- Nor does a visit in a view that overlooks trainings altogether. -/
theorem handle (trainings : ∀ c key id, view (Controller.recordTraining c key id) = view c)
    (x : Event) (other : x.collects = false) : view (c.handle x) = view c := by
  cases hx : x.visits with
  | false => exact h.handle_of_not_visits c x other hx
  | true =>
    cases x with
    | evaluationLoopDue id =>
      refine view_atEvaluationLoop fun l => ?_
      split
      · exact h.tickEvaluationLoop c trainings id l
      · rfl
    | dispatchEnds id result =>
      refine view_atEvaluation fun e => ?_
      split
      · exact h.resumeVisit c trainings id e _ _ _ _ result
      · rfl
    | _ => cases hx

end Controller.Overlooks

end PredictiveScaling
