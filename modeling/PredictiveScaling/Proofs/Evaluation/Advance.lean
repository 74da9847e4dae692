import PredictiveScaling.Proofs.Evaluation.Visit
import PredictiveScaling.Proofs.Scaling.Decision

/-!
# How rounds advance

Whatever happens to a controller does one of four things to its stage: nothing at all, or
something else is installed, or a new round begins, or one round advances. `Advances` lists
the ways in which a round advances; everything that holds throughout a round is shown by
going through them.
-/
namespace PredictiveScaling

/-- What happens to a controller. -/
inductive Happening where
  | event (x : Event)
  /-- A round is begun from outside. -/
  | evaluate
  | install (metric : Metric) (specs : List ModelSpec) (config : CollectionConfig)
  | remove (metricKey : String)
  /-- An entry is taken out of one map of the store. -/
  | erase (part : StorePart) (key : String)

/-- It leaves what is installed as it is. -/
def Happening.Inner : Happening → Prop
  | .event _ | .evaluate => True
  | .install .. | .remove _ | .erase .. => False

def Controller.undergo (c : Controller) : Happening → Controller
  | .event x => c.handle x
  | .evaluate => c.beginEvaluation none
  | .install metric specs config => (c.install metric specs config).2
  | .remove metricKey => c.remove metricKey
  | .erase part key => (c.eraseFrom part key).2

/-- The stage after a round has advanced. -/
def Stage.advance (s : Stage) (id : Nat) (scaler : Scaler) (e : Evaluation)
    (issued : List Int32) : Stage :=
  { s.put id e with scaler, sets := s.sets ++ issued.map fun n => (id, n) }

theorem Stage.put_eq_advance (s : Stage) (id : Nat) (e : Evaluation) :
    s.put id e = s.advance id s.scaler e [] := by
  simp [advance, put]

namespace Controller

variable {c : Controller}

/-- How a round advances: the scaler and the round afterwards, and the counts that are set. -/
inductive Advances (c : Controller) (id : Nat) (e : Evaluation) :
    Happening → Scaler → Evaluation → List Int32 → Prop where
  | abandoned {loop : Nat} :
      Advances c id e (.event (.evaluationLoopSignalled loop)) c.scaler
        { e with phase := .abandoned } []
  | brings {i : Nat} {p : Prediction} {forecast : Option Forecast}
      (mem : e.predictions[i]? = some p) (active : e.isAbandoned = false)
      (pending : p.phase = .pending) (opens : c.opening p = .brings forecast) :
      Advances c id e (.event (.predictionStarts id i)) c.scaler
        (c.stage.received e i p forecast) []
  | asks {i : Nat} {p : Prediction} {request : PredictRequest}
      (mem : e.predictions[i]? = some p) (active : e.isAbandoned = false)
      (pending : p.phase = .pending) (opens : c.opening p = .asks request) :
      Advances c id e (.event (.predictionStarts id i)) c.scaler
        (e.setPrediction i (.asking request)) []
  | answers {i : Nat} {p : Prediction} {request : PredictRequest}
      {reply : Except PredictError PredictReply}
      (mem : e.predictions[i]? = some p) (active : e.isAbandoned = false)
      (asking : p.phase = .asking request) :
      Advances c id e (.event (.replyArrives id i reply)) c.scaler
        (c.stage.received e i p (c.answered p request reply)) []
  | counts {i : Nat} {p : Prediction} {forecast : Forecast} {count : Except SourceError Int32}
      (mem : e.predictions[i]? = some p) (active : e.isAbandoned = false)
      (counting : p.phase = .counting forecast) :
      Advances c id e (.event (.predictionCount id i count)) c.scaler
        (c.stage.counted e i p forecast count) []
  | resumes {key : String} {predictor : Nat} {d : Dispatch} {rest : List (String × Nat)}
      {result : Except PredictError Unit} {e' : Evaluation}
      (dispatching : e.phase = .dispatching key predictor d rest)
      (visits : c.stage.Visits { e with phase := .joining } rest e') :
      Advances c id e (.event (.dispatchEnds id result)) c.scaler e' []
  | unread {goal : Goal} {cause : SourceError} (reading : e.phase = .reading goal) :
      Advances c id e (.event (.goalCount id (.error cause))) c.scaler (e.conclude goal none) []
  | rests {goal : Goal} {current : Int32} {scaler : Scaler}
      {result : Except ScaleError ScaleAction} (reading : e.phase = .reading goal)
      (decided : c.scaler.decide c.now.steady goal.scaleDown current goal.target =
        (scaler, .settled result)) :
      Advances c id e (.event (.goalCount id (.ok current))) scaler
        (e.conclude goal result.toOption) []
  | sets {goal : Goal} {current n : Int32} {scaler : Scaler} {action : ScaleAction}
      (reading : e.phase = .reading goal)
      (decided : c.scaler.decide c.now.steady goal.scaleDown current goal.target =
        (scaler, .set n action)) :
      Advances c id e (.event (.goalCount id (.ok current))) scaler
        { e with phase := .setting goal action } [n]
  | ends {goal : Goal} {action : ScaleAction} {result : Except SourceError Unit}
      (setting : e.phase = .setting goal action) :
      Advances c id e (.event (.goalSet id result)) c.scaler
        (e.conclude goal (result.toOption.map fun _ => action)) []

/-- What a happening does to the stage. -/
inductive Effect (c : Controller) (x : Happening) : Stage → Prop where
  | keeps : Effect c x c.stage
  | installs (outside : ¬ x.Inner) (installed : Installed) :
      Effect c x { c.stage with installed }
  | begins {owner : Option Nat} {e : Evaluation}
      (visits : c.stage.Visits (.start owner c.store.predictors.toList.length)
        c.store.predictors.toList e) :
      Effect c x { c.stage with evaluations := c.evaluations.push e }
  | advances {id : Nat} {e e' : Evaluation} {scaler : Scaler} {issued : List Int32}
      (found : c.evaluations.get? id = some e) (how : Advances c id e x scaler e' issued) :
      Effect c x (c.stage.advance id scaler e' issued)

/-- A round advances only by an event. -/
theorem Advances.inner {id : Nat} {e e' : Evaluation} {x : Happening} {scaler : Scaler}
    {issued : List Int32} (h : Advances c id e x scaler e' issued) : x.Inner := by
  cases h <;> trivial

/-- A scaler keeps its settings while a round advances. -/
theorem Advances.config_eq {id : Nat} {e e' : Evaluation} {x : Happening} {scaler : Scaler}
    {issued : List Int32} (h : Advances c id e x scaler e' issued) :
    scaler.config = c.scaler.config := by
  have kept : ∀ {goal : Goal} {current : Int32} {decision : Decision},
      c.scaler.decide c.now.steady goal.scaleDown current goal.target = (scaler, decision) →
        scaler.config = c.scaler.config := by
    intro goal current decision decided
    have course := Scaler.course_decide c.scaler c.now.steady goal.scaleDown current goal.target
    rw [decided] at course
    exact course.config_eq
  cases h with
  | rests _ decided => exact kept decided
  | sets _ decided => exact kept decided
  | _ => rfl

theorem Effect.config_eq {x : Happening} {s : Stage} (h : Effect c x s) :
    s.scaler.config = c.scaler.config := by
  cases h with
  | advances _ how => exact how.config_eq
  | _ => rfl

theorem Effect.installed_eq {x : Happening} {s : Stage} (h : Effect c x s) (inner : x.Inner) :
    s.installed = c.store.installed := by
  cases h with
  | installs outside _ => exact absurd inner outside
  | _ => rfl

/-- A round is put into its next state, and nothing else changes. -/
theorem Effect.of_put {x : Happening} {id : Nat} {e e' : Evaluation}
    (found : c.evaluations.get? id = some e) (how : Advances c id e x c.scaler e' []) :
    Effect c x (c.stage.put id e') := by
  rw [Stage.put_eq_advance]
  exact .advances found how

theorem Effect.of_stage_eq {x : Happening} {c' : Controller} (h : c'.stage = c.stage) :
    Effect c x c'.stage :=
  h ▸ .keeps

/-- What holds of a round when it begins and stays so when it advances holds of all rounds. -/
theorem Effect.rounds {x : Happening} {s : Stage} {P : Evaluation → Prop} (effect : Effect c x s)
    (begins : ∀ owner n e,
      c.stage.Visits (.start owner n) c.store.predictors.toList e → P e)
    (advances : ∀ id e e' scaler issued, Advances c id e x scaler e' issued → P e → P e')
    (h : ∀ id e, c.evaluations.get? id = some e → P e) :
    ∀ id e, s.evaluations.get? id = some e → P e := by
  intro id e found
  cases effect with
  | keeps => exact h id e found
  | installs _ _ => exact h id e found
  | begins visits =>
    rw [Arena.get?_push] at found
    split at found
    · obtain rfl := Option.some.inj found
      exact begins _ _ _ visits
    · exact h id e found
  | @advances id' e₁ e₁' scaler issued found' how =>
    by_cases hid : id' = id
    · subst hid
      obtain rfl : e₁' = e := Option.some.inj ((get?_setEvaluation found' _).symm.trans found)
      exact advances id' e₁ e₁' scaler issued how (h id' e₁ found')
    · exact h id e ((Arena.get?_modify_of_ne _ hid _).symm.trans found)

/-! ## Events -/

theorem stage_atCollection {id : Nat} {phase : CollectionPhase}
    {f : CollectionLoop → Controller} (h : ∀ l, (f l).stage = c.stage) :
    (c.atCollection id phase f).stage = c.stage := by
  rw [atCollection]
  split
  · split
    · exact h _
    · rfl
  · rfl

theorem effect_atEvaluation {x : Happening} {id : Nat} {f : Evaluation → Controller}
    (h : ∀ e, c.evaluations.get? id = some e → Effect c x (f e).stage) :
    Effect c x (c.atEvaluation id f).stage := by
  rw [atEvaluation]
  cases found : c.evaluations.get? id with
  | none => exact .keeps
  | some e => exact h e found

theorem effect_atPrediction {x : Happening} {id i : Nat}
    {f : Evaluation → Prediction → Controller}
    (h : ∀ e p, c.evaluations.get? id = some e → e.predictions[i]? = some p →
      e.isAbandoned = false → Effect c x (f e p).stage) :
    Effect c x (c.atPrediction id i f).stage := by
  rw [atPrediction]
  refine effect_atEvaluation fun e found => ?_
  cases mem : e.predictions[i]? with
  | none => exact .keeps
  | some p =>
    dsimp only
    cases active : e.isAbandoned with
    | true => exact .keeps
    | false => exact h e p found mem active

theorem effect_atEvaluationLoop {x : Happening} {id : Nat} {f : EvaluationLoop → Controller}
    (h : ∀ l, Effect c x (f l).stage) : Effect c x (c.atEvaluationLoop id f).stage := by
  rw [atEvaluationLoop]
  split
  · exact h _
  · exact .keeps

theorem effect_tickEvaluationLoop {x : Happening} (id : Nat) (l : EvaluationLoop) :
    Effect c x (c.tickEvaluationLoop id l).stage := by
  rw [tickEvaluationLoop]
  obtain ⟨e, hstage, visits⟩ := stage_beginEvaluation (c.ticked id l) (some id)
  rw [hstage]
  exact .begins visits

theorem effect_endEvaluationLoop {loop : Nat} (id : Nat) (l : EvaluationLoop) :
    Effect c (.event (.evaluationLoopSignalled loop)) (c.endEvaluationLoop id l).stage := by
  unfold endEvaluationLoop
  dsimp only
  rw [stage_setEvaluationLoop]
  split
  · next round _ =>
    cases found : c.evaluations.get? round with
    | none =>
      refine .of_stage_eq ?_
      rw [abandonEvaluation, found]
    | some e =>
      rw [stage_abandonEvaluation found]
      exact .of_put found .abandoned
  · exact .keeps

theorem effect_readGoalCount {id : Nat} {e : Evaluation} {goal : Goal}
    (found : c.evaluations.get? id = some e) (reading : e.phase = .reading goal)
    (count : Except SourceError Int32) :
    Effect c (.event (.goalCount id count)) (c.readGoalCount id e goal count).stage := by
  cases count with
  | error cause =>
    rw [stage_readGoalCount_error]
    exact .of_put found (.unread reading)
  | ok current =>
    cases decided : c.scaler.decide c.now.steady goal.scaleDown current goal.target with
    | mk scaler decision =>
      cases decision with
      | settled result =>
        have how := Effect.advances found (.rests reading decided)
        rw [stage_readGoalCount_of_settled decided]
        simpa only [Stage.advance, Stage.put, List.map_nil, List.append_nil] using how
      | set n action =>
        rw [stage_readGoalCount_of_set decided]
        exact .advances found (.sets reading decided)

/-- Every event has one of the effects on the stage. -/
theorem effect_handle (c : Controller) (x : Event) : Effect c (.event x) (c.handle x).stage := by
  cases x with
  | collectionStarts id =>
    exact .of_stage_eq (stage_atCollection fun l => stage_startCollection c id l)
  | collectionDue id =>
    exact .of_stage_eq (stage_atCollection fun l => stage_tickCollection c id l)
  | collectionSignalled id =>
    refine .of_stage_eq (stage_atCollection fun l => ?_)
    split
    · rw [stage_endCollection]
    · rfl
  | queryEnds id answer =>
    exact .of_stage_eq (stage_atCollection fun l => stage_endQuery c id l answer)
  | evaluationLoopStarts id =>
    refine effect_atEvaluationLoop fun l => ?_
    split
    · exact .of_stage_eq (stage_startEvaluationLoop c id l)
    · exact .keeps
  | evaluationLoopDue id =>
    refine effect_atEvaluationLoop fun l => ?_
    split
    · exact effect_tickEvaluationLoop id l
    · exact .keeps
  | evaluationLoopSignalled id =>
    refine effect_atEvaluationLoop fun l => ?_
    split
    · exact effect_endEvaluationLoop id l
    · exact .keeps
  | predictionStarts id i =>
    refine effect_atPrediction fun e p found mem active => ?_
    split
    · next pending =>
      rw [stage_startPrediction found]
      cases opens : c.opening p with
      | brings forecast => exact .of_put found (.brings mem active pending opens)
      | asks request => exact .of_put found (.asks mem active pending opens)
    · exact .keeps
  | replyArrives id i reply =>
    refine effect_atPrediction fun e p found mem active => ?_
    split
    · next request asking =>
      rw [stage_takeReply found]
      exact .of_put found (.answers mem active asking)
    · exact .keeps
  | predictionCount id i count =>
    refine effect_atPrediction fun e p found mem active => ?_
    split
    · next forecast counting =>
      rw [stage_readPredictionCount found]
      exact .of_put found (.counts mem active counting)
    · exact .keeps
  | dispatchEnds id result =>
    refine effect_atEvaluation fun e found => ?_
    split
    · next key predictor d rest dispatching =>
      obtain ⟨e', hstage, visits⟩ := stage_resumeVisit found key predictor d rest result
      rw [hstage]
      exact .of_put found (.resumes dispatching visits)
    · exact .keeps
  | goalCount id count =>
    refine effect_atEvaluation fun e found => ?_
    split
    · next goal reading => exact effect_readGoalCount found reading count
    · exact .keeps
  | goalSet id result =>
    refine effect_atEvaluation fun e found => ?_
    split
    · next goal action setting =>
      rw [stage_endGoalSet]
      exact .of_put found (.ends setting)
    · exact .keeps
  | trainingEnds id round arrival => exact .of_stage_eq (stage_endTraining c id round arrival)

/-! ## Installing and removing -/

@[simp] theorem stage_signalIfAny (c : Controller) (loop : Option Nat) :
    (c.signalIfAny loop).stage = c.stage := by
  simp only [signalIfAny]
  split
  · rw [stage_signalCollection]
  · rfl

theorem stage_remove (c : Controller) (metricKey : String) : (c.remove metricKey).stage =
    { c.stage with installed := (c.store.remove metricKey).installed } := by
  rw [remove]
  rw [stage_signalIfAny]
  rfl

theorem stage_eraseFrom (c : Controller) (part : StorePart) (key : String) :
    (c.eraseFrom part key).2.stage =
      { c.stage with installed := (c.store.eraseFrom part key).2.installed } := by
  rw [eraseFrom]
  dsimp only
  rw [stage_signalIfAny]
  rfl

theorem stage_install (c : Controller) (metric : Metric) (specs : List ModelSpec)
    (config : CollectionConfig) :
    ∃ installed, (c.install metric specs config).2.stage = { c.stage with installed } := by
  rw [install]
  dsimp only
  have removed : ∃ installed,
      (if c.store.metrics.contains metric.key then c.remove metric.key else c : Controller).stage =
        { c.stage with installed } := by
    split
    · exact ⟨_, stage_remove c metric.key⟩
    · exact ⟨c.store.installed, rfl⟩
  generalize (if c.store.metrics.contains metric.key then c.remove metric.key else c) = c₁
    at removed ⊢
  obtain ⟨installed, removed⟩ := removed
  split
  · exact ⟨installed, removed⟩
  · next made _ =>
    dsimp only
    rw [stage_signalIfAny]
    have spawned := stage_spawnCollection { c₁ with
      collectors := c₁.collectors.push (.new metric config.maxSamples)
      predictors := c₁.predictors.append (made.map Prod.snd) }
      (.new c₁.collectors.size metric.key config true)
    let store := c₁.store.install metric c₁.collectors.size c₁.collectionLoops.size
      (installedModels c₁.predictors.size made)
    exact ⟨store.installed,
      congrArg (fun s : Stage => { s with installed := store.installed }) (spawned.trans removed)⟩

/-- Whatever happens has one of the effects on the stage. -/
theorem effect_undergo (c : Controller) (x : Happening) : Effect c x (c.undergo x).stage := by
  cases x with
  | event x => exact effect_handle c x
  | evaluate =>
    obtain ⟨e, hstage, visits⟩ := stage_beginEvaluation c none
    rw [undergo, hstage]
    exact .begins visits
  | install metric specs config =>
    obtain ⟨installed, hstage⟩ := stage_install c metric specs config
    rw [undergo, hstage]
    exact .installs (by simp [Happening.Inner]) installed
  | remove metricKey =>
    rw [undergo, stage_remove]
    exact .installs (by simp [Happening.Inner]) _
  | erase part key =>
    rw [undergo, stage_eraseFrom]
    exact .installs (by simp [Happening.Inner]) _

end Controller

end PredictiveScaling
