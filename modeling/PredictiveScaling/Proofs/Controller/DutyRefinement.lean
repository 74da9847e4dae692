import PredictiveScaling.Proofs.Abstract.Duty
import PredictiveScaling.Proofs.Controller.Moves
import PredictiveScaling.Proofs.Evaluation.Outcome

/-!
# The duties of a controller

A controller is an instance of the rounds on duty: what the evaluation loops and the rounds of a
controller have to do with each other changes only in the ways of `Duty.Step`, whatever happens
(`Controller.step_makes`). A round asks for counts and sets them one at a time, and each event of a
round lets it do so once.
-/
namespace PredictiveScaling

def Evaluation.standing (e : Evaluation) : Standing :=
  match e.phase with
  | .dispatching .. | .joining => .gathering
  | .reading _ => .reading
  | .setting .. => .setting
  | .ended _ => .ended
  | .abandoned => .abandoned

/-- A call about the count, with the round that it is made in and what is to be set. -/
def Call.scaling? : Call → Option (Nat × Option Int32)
  | .countForPrediction id _ | .countForGoal id => some (id, none)
  | .setCount id n => some (id, some n)
  | _ => none

/-- The round whose count was set, or could not be. -/
def Event.answered? : Event → Option Nat
  | .goalSet id _ => some id
  | _ => none

def Move.answered? : Move → Option Nat
  | .turn (.event x) => x.answered?
  | _ => none

/-! ## Rounds that have collected their forecasts -/

/-- A round that has come to its goal does not wait for forecasts. -/
def Evaluation.Collected (e : Evaluation) : Prop :=
  e.isAimed = true → ∀ p ∈ e.predictions, p.isDone = true

namespace Evaluation

variable {e : Evaluation} {i : Nat} {p : Prediction}

theorem Collected.isAimed_eq_false (h : e.Collected) (mem : e.predictions[i]? = some p)
    (waits : p.isDone = false) : e.isAimed = false := by
  cases haimed : e.isAimed with
  | false => rfl
  | true =>
    have done := h haimed p (List.mem_of_getElem? mem)
    cases waits.symm.trans done

theorem collected_of_isAimed (waits : e.isAimed = false) : e.Collected :=
  fun aimed => absurd aimed (ne_true_of_eq_false waits)

theorem collected_settled (s : Stage) (h : e.Collected) : (s.settled e).Collected := by
  rw [Stage.settled]
  split
  · next complete =>
    obtain ⟨phase, haimed⟩ := s.aimed_eq_withPhase e
    rw [haimed]
    intro _
    rw [isComplete] at complete
    split at complete
    · exact List.all_eq_true.1 complete
    · cases complete
  · exact h

theorem collected_of_visits {s : Stage} {e' : Evaluation} {l : List (String × Nat)}
    (joining : e.phase = .joining) (visits : s.Visits e l e') : e'.Collected := by
  cases visits with
  | all =>
    refine collected_settled s (collected_of_isAimed ?_)
    rw [isAimed, joining]
  | suspended before d split => exact collected_of_isAimed rfl

/-- A round that waits for a forecast and has not been given up is still gathering. -/
theorem standing_of_waiting (h : e.Collected) (mem : e.predictions[i]? = some p)
    (waits : p.isDone = false) (active : e.isAbandoned = false) : e.standing = .gathering := by
  have unaimed := h.isAimed_eq_false mem waits
  rw [isAimed] at unaimed
  rw [isAbandoned] at active
  rw [standing]
  split
  · rfl
  · rfl
  · next hphase =>
    rw [hphase] at unaimed
    cases unaimed
  · next hphase =>
    rw [hphase] at unaimed
    cases unaimed
  · next hphase =>
    rw [hphase] at unaimed
    cases unaimed
  · next hphase =>
    rw [hphase] at active
    cases active

end Evaluation

namespace Controller

variable {c c' : Controller} {id i j l : Nat} {e e' : Evaluation} {p : Prediction}

theorem Advances.collected {x : Happening} {scaler : Scaler} {issued : List Int32}
    (how : c.Advances id e x scaler e' issued) (h : e.Collected) : e'.Collected := by
  have received : ∀ {i p} (forecast : Option Forecast), e.predictions[i]? = some p →
      p.isDone = false → (c.stage.received e i p forecast).Collected := by
    intro i p forecast mem waits
    have unaimed := h.isAimed_eq_false mem waits
    have finished : ∀ counts, (c.stage.settled (e.finish i p.key counts)).Collected :=
      fun counts => Evaluation.collected_settled _ (Evaluation.collected_of_isAimed unaimed)
    rw [Stage.received.eq_def]
    split
    · exact finished none
    · split
      · exact Evaluation.collected_of_isAimed unaimed
      · exact finished _
  cases how with
  | abandoned => exact Evaluation.collected_of_isAimed rfl
  | brings mem active pending opens =>
    exact received _ mem (by rw [Prediction.isDone, pending])
  | asks mem active pending opens =>
    refine Evaluation.collected_of_isAimed (h.isAimed_eq_false mem ?_)
    rw [Prediction.isDone, pending]
  | answers mem active asking =>
    exact received _ mem (by rw [Prediction.isDone, asking])
  | counts mem active counting =>
    refine Evaluation.collected_settled _ (Evaluation.collected_of_isAimed ?_)
    exact h.isAimed_eq_false mem (by rw [Prediction.isDone, counting])
  | resumes dispatching visits => exact Evaluation.collected_of_visits rfl visits
  | unread reading => exact fun _ => h (by rw [Evaluation.isAimed, reading])
  | rests reading decided => exact fun _ => h (by rw [Evaluation.isAimed, reading])
  | sets reading decided => exact fun _ => h (by rw [Evaluation.isAimed, reading])
  | ends setting => exact fun _ => h (by rw [Evaluation.isAimed, setting])

/-- No round that has come to its goal waits for forecasts. -/
def Collected (c : Controller) : Prop := ∀ id e, c.evaluations.get? id = some e → e.Collected

theorem Collected.makes (h : c.Collected) (x : Move) : (c.makes x).Collected := by
  cases x with
  | turn x =>
    obtain ⟨happening, effect⟩ := c.effect_takes x
    refine effect.rounds (P := Evaluation.Collected) ?_ ?_ h
    · exact fun owner n e visits => Evaluation.collected_of_visits rfl visits
    · exact fun id e e' scaler issued how before => how.collected before
  | spawn => exact h

/-! ## The view -/

def loopPhase? (c : Controller) (l : Nat) : Option EvaluationLoopPhase :=
  (c.evaluationLoops.get? l).map EvaluationLoop.phase

def duty (c : Controller) : Duty where
  loop := c.loopPhase?
  round id := (c.evaluations.get? id).map fun e => (e.owner, e.standing)
  calls := c.outbox.filterMap Call.scaling?

theorem round_of_get? (found : c.evaluations.get? id = some e) :
    c.duty.round id = some (e.owner, e.standing) :=
  congrArg (Option.map fun e : Evaluation => (e.owner, e.standing)) found

theorem loop_of_get? {x : EvaluationLoop} (found : c.evaluationLoops.get? l = some x) :
    c.duty.loop l = some x.phase :=
  congrArg (Option.map EvaluationLoop.phase) found

theorem duty_call_of_none {x : Call} (silent : x.scaling? = none) : (c.call x).duty = c.duty := by
  refine Duty.ext rfl rfl ?_
  change (c.outbox ++ [x]).filterMap _ = _
  rw [List.filterMap_append, List.filterMap_cons_none silent]
  exact List.append_nil _

theorem duty_call_of_some {x : Call} {y : Nat × Option Int32} (scaling : x.scaling? = some y) :
    (c.call x).duty = c.duty.call y := by
  refine Duty.ext rfl rfl ?_
  change (c.outbox ++ [x]).filterMap _ = _
  rw [List.filterMap_append, List.filterMap_cons_some scaling]
  rfl

theorem duty_setEvaluation {x : Option Nat × Standing} (found : c.duty.round id = some x)
    (e : Evaluation) : (c.setEvaluation id e).duty = c.duty.put id e.owner e.standing := by
  refine Duty.ext rfl (funext fun j => ?_) rfl
  obtain ⟨e₀, hget, -⟩ := Option.map_eq_some_iff.1 found
  change ((c.evaluations.modify id fun _ => e).get? j).map _ = _
  by_cases same : j = id
  · subst same
    rw [Duty.round_put_self, Arena.get?_modify_self, hget]
    rfl
  · rw [Duty.round_put_of_ne same, Arena.get?_modify_of_ne _ (Ne.symm same)]
    rfl

/-- A round goes on and stands where it stood. -/
theorem duty_setEvaluation_of_eq (found : c.duty.round id = some (e.owner, e.standing)) :
    (c.setEvaluation id e).duty = c.duty := by
  rw [duty_setEvaluation found, Duty.put_self found]

theorem duty_setEvaluationLoop {phase : EvaluationLoopPhase} (found : c.duty.loop l = some phase)
    (x : EvaluationLoop) : (c.setEvaluationLoop l x).duty = c.duty.turn l x.phase := by
  refine Duty.ext (funext fun k => ?_) rfl rfl
  obtain ⟨x₀, hget, -⟩ := Option.map_eq_some_iff.1 found
  change ((c.evaluationLoops.modify l fun _ => x).get? k).map _ = _
  by_cases same : k = l
  · subst same
    rw [Duty.loop_turn_self, Arena.get?_modify_self, hget]
    rfl
  · rw [Duty.loop_turn_of_ne same, Arena.get?_modify_of_ne _ (Ne.symm same)]
    rfl

theorem overlooksCollecting_duty : OverlooksCollecting duty where
  wake _ _ _ := duty_call_of_none rfl
  query _ _ _ _ := duty_call_of_none rfl
  collectionLoops _ _ := rfl
  collectors _ _ := rfl
  health _ _ := rfl
  telemetry _ _ := rfl

/-! ## Loops -/

theorem duty_awaitEvaluationTick {phase : EvaluationLoopPhase} (found : c.duty.loop l = some phase)
    (x : EvaluationLoop) : (c.awaitEvaluationTick l x).duty = c.duty.turn l .waiting := by
  have waits := duty_setEvaluationLoop found { x with phase := .waiting }
  rw [awaitEvaluationTick, duty_call_of_none rfl]
  split
  · rw [soon, duty_call_of_none rfl, waits]
  · exact waits

theorem duty_resumeOwner (c : Controller) (id : Nat) (owner : Option Nat) :
    (c.resumeOwner id owner).duty = c.duty.release id owner := by
  cases owner with
  | none => rfl
  | some l =>
    rw [resumeOwner, Duty.release]
    cases found : c.evaluationLoops.get? l with
    | none =>
      have unknown : c.duty.loop l = none := congrArg (Option.map EvaluationLoop.phase) found
      rw [if_neg fun same => by cases unknown.symm.trans same]
    | some x =>
      have phase := loop_of_get? found
      dsimp only
      by_cases evaluating : x.phase = .evaluating id
      · rw [if_pos evaluating, if_pos (phase.trans (congrArg some evaluating)),
          duty_awaitEvaluationTick phase]
      · rw [if_neg evaluating, if_neg]
        exact fun same => evaluating (Option.some.inj (phase.symm.trans same))

theorem duty_signalEvaluationLoop (c : Controller) (l : Nat) :
    (c.signalEvaluationLoop l).duty = c.duty := by
  rw [signalEvaluationLoop]
  cases found : c.evaluationLoops.get? l with
  | none => rfl
  | some x =>
    have told : (c.setEvaluationLoop l { x with signalled := true }).duty = c.duty := by
      rw [duty_setEvaluationLoop (loop_of_get? found), Duty.turn, ← loop_of_get? found,
        Function.update_eq_self]
    dsimp only
    split
    · exact told
    · rw [soon, duty_call_of_none rfl, told]

/-! ## Rounds -/

variable {owner answered : Option Nat} {s : Standing}

theorem act_endEvaluation (found : c.duty.round id = some (e.owner, s)) (active : s.isOver = false)
    (due : s = .setting → answered = some id) (report : EvaluationReport) :
    c.duty.Act id answered (c.endEvaluation id e report).duty := by
  rw [endEvaluation, duty_resumeOwner, duty_setEvaluation found]
  exact .ends found active due

theorem duty_showBuffers (c : Controller) : c.showBuffers.duty = c.duty := by
  rw [showBuffers]
  generalize c.store.collectors.toList = l
  induction l generalizing c with
  | nil => rfl
  | cons x l ih => exact ih _

theorem act_setGoal (gathering : c.duty.round id = some (e.owner, .gathering)) :
    c.duty.Act id answered (c.setGoal id e).duty := by
  rw [setGoal]
  split
  · dsimp only
    have ends : ∀ {c'}, Controller.duty c' = c.duty →
        c.duty.Act id answered (c'.endEvaluation id e ⟨0, none, none⟩).duty := by
      intro c' same
      rw [← same] at gathering ⊢
      exact act_endEvaluation gathering rfl (fun same => by cases same) _
    split
    · exact ends c.duty_showBuffers
    · exact ends c.duty_showBuffers
  · dsimp only
    split
    · exact act_endEvaluation (c := c.reportHealthy _) gathering rfl (fun same => by cases same) _
    · rw [duty_call_of_some rfl, duty_setEvaluation (c := c.reportHealthy _) gathering]
      exact .aims gathering

theorem act_settle (c : Controller) (id : Nat) : c.duty.Act id answered (c.settle id).duty := by
  rw [settle]
  split
  · next e found =>
    split
    · next complete =>
      have gathering : e.standing = .gathering := by
        rw [Evaluation.isComplete] at complete
        split at complete
        · next joining => rw [Evaluation.standing, joining]
        · cases complete
      exact act_setGoal (gathering ▸ round_of_get? found)
    · exact .rests
  · exact .rests

theorem act_endAttempt (found : c.duty.round id = some (e.owner, s)) (active : s.isOver = false)
    (due : s = .setting → answered = some id) (goal : Goal)
    (result : Except ScaleError ScaleAction) :
    c.duty.Act id answered (c.endAttempt id e goal result).duty := by
  cases result with
  | ok action =>
    rw [endAttempt]
    have told : ∀ f record, (((c.count f).call (.journal record)).reportHealthy
        (scalerComponent c.workload)).duty = c.duty :=
      fun f record => duty_call_of_none (c := c.count f) rfl
    rw [← told] at found ⊢
    exact act_endEvaluation found active due _
  | error error => exact act_endEvaluation (c := c.reportDegraded _ _) found active due _

theorem act_readGoalCount (reading : c.duty.round id = some (e.owner, .reading)) (goal : Goal)
    (count : Except SourceError Int32) :
    c.duty.Act id answered (c.readGoalCount id e goal count).duty := by
  have unset : Standing.reading = .setting → answered = some id := fun same => by cases same
  cases count with
  | error cause => exact act_endAttempt reading rfl unset goal _
  | ok current =>
    rw [readGoalCount]
    dsimp only
    split
    · exact act_endAttempt (c := { c.count _ with scaler := _ }) reading rfl unset goal _
    · next n action _ =>
      rw [duty_call_of_some rfl, duty_setEvaluation (c := { c.count _ with scaler := _ }) reading]
      exact .sets reading n

theorem act_endGoalSet (setting : c.duty.round id = some (e.owner, .setting)) (goal : Goal)
    (action : ScaleAction) (result : Except SourceError Unit) :
    c.duty.Act id (some id) (c.endGoalSet id e goal action result).duty :=
  act_endAttempt setting rfl (fun _ => rfl) goal _

section

variable (gathering : c.duty.round id = some (e.owner, .gathering))
  (hstanding : e.standing = .gathering)
include gathering hstanding

theorem act_endPrediction (i : Nat) (key : String) (counts : Option (List Int32)) :
    c.duty.Act id answered (c.endPrediction id i e key counts).duty := by
  have same : ∀ e', Evaluation.owner e' = e.owner → e'.standing = e.standing →
      (c.setEvaluation id e').duty = c.duty := by
    intro e' howner hs
    refine duty_setEvaluation_of_eq ?_
    rw [howner, hs, hstanding]
    exact gathering
  rw [endPrediction.eq_def]
  dsimp only
  rw [← same { e.setPrediction i .done with results := _ } rfl rfl]
  exact act_settle _ id

theorem act_takeForecast (i : Nat) (p : Prediction) (forecast : Except PredictError Forecast) :
    c.duty.Act id answered (c.takeForecast id i e p forecast).duty := by
  cases forecast with
  | error error => exact act_endPrediction (c := (c.count _).countFault _) gathering hstanding i _ _
  | ok f =>
    rw [takeForecast]
    split
    · rw [duty_call_of_some rfl, duty_setEvaluation_of_eq (c := c.count _)
        (e := e.setPrediction i (.counting f))]
      · exact .counts gathering
      · change c.duty.round id = some (e.owner, e.standing)
        rw [hstanding]
        exact gathering
    · exact act_endPrediction (c := c.count _) gathering hstanding i _ _

theorem act_startPrediction (i : Nat) (p : Prediction) :
    c.duty.Act id answered (c.startPrediction id i e p).duty := by
  rw [startPrediction]
  split
  · exact act_endPrediction gathering hstanding i _ _
  · dsimp only
    split
    · split
      · exact act_takeForecast gathering hstanding i p _
      · exact act_endPrediction gathering hstanding i _ _
    · split
      · exact act_takeForecast gathering hstanding i p _
      · next request _ =>
        rw [duty_call_of_none rfl,
          duty_setEvaluation_of_eq (e := e.setPrediction i (.asking request))]
        · exact .rests
        · change c.duty.round id = some (e.owner, e.standing)
          rw [hstanding]
          exact gathering

theorem act_takeReply (i : Nat) (p : Prediction) (request : PredictRequest)
    (reply : Except PredictError PredictReply) :
    c.duty.Act id answered (c.takeReply id i e p request reply).duty := by
  rw [takeReply]
  split
  · exact act_takeForecast (c := c.putRemote _ _ _) gathering hstanding i p _
  · exact act_endPrediction gathering hstanding i _ _

theorem act_readPredictionCount (i : Nat) (p : Prediction) (forecast : Forecast)
    (count : Except SourceError Int32) :
    c.duty.Act id answered (c.readPredictionCount id i e p forecast count).duty := by
  rw [readPredictionCount.eq_def]
  split
  · exact act_endPrediction gathering hstanding i _ _
  · exact act_endPrediction gathering hstanding i _ _

end

/-! ## Visiting -/

theorem duty_spawnPrediction (c : Controller) (id : Nat) (key : String) (predictor : Nat)
    (target : Float) : (c.spawnPrediction id key predictor target).duty = c.duty := by
  rw [spawnPrediction]
  split
  · rfl
  · next e found =>
    have same := round_of_get? found
    rw [soon, duty_call_of_none rfl]
    exact duty_setEvaluation_of_eq (e := { e with predictions := e.predictions ++ [_] }) same

theorem duty_suspendVisit (gathering : c.duty.round id = some (owner, .gathering)) (key : String)
    (predictor : Nat) (d : Dispatch) (rest : List (String × Nat)) :
    (c.suspendVisit id key predictor d rest).duty = c.duty := by
  rw [suspendVisit]
  split
  · rfl
  · next e found =>
    have same := gathering.symm.trans (round_of_get? found)
    obtain ⟨rfl, -⟩ := Prod.mk.inj (Option.some.inj same)
    rw [duty_call_of_none rfl]
    exact duty_setEvaluation_of_eq (e := { e with phase := .dispatching key predictor d rest })
      gathering

theorem duty_beginTraining (c : Controller) (n : Nat) : (c.beginTraining n).2.duty = c.duty := by
  rw [beginTraining]
  split <;> rfl

theorem duty_endDispatch (c : Controller) (n : Nat) (d : Dispatch) (watched : Bool)
    (result : Except PredictError Unit) : (c.endDispatch n d watched result).duty = c.duty := by
  rw [endDispatch]
  split
  · dsimp only
    split
    · exact duty_call_of_none rfl
    · rfl
  · rfl

theorem act_visit (gathering : c.duty.round id = some (owner, .gathering))
    (l : List (String × Nat)) : c.duty.Act id answered (c.visit id l).duty := by
  induction l generalizing c with
  | nil => exact act_settle c id
  | cons x rest ih =>
    obtain ⟨key, predictor⟩ := x
    have goesOn : ∀ {c'}, Controller.duty c' = c.duty →
        c.duty.Act id answered (c'.visit id rest).duty := by
      intro c' same
      rw [← same] at gathering ⊢
      exact ih gathering
    rw [visit]
    have hcomes := c.comes_comeTo id key predictor
    generalize c.comeTo id key predictor = come at hcomes ⊢
    cases hcomes with
    | missing => exact goesOn rfl
    | @called model metric c₁ _ _ asked calls =>
      have hspawn := c.duty_spawnPrediction id key predictor metric.target
      rw [asked] at hspawn
      have hbegin := (c₁.duty_beginTraining predictor).trans hspawn
      cases calls with
      | spared => exact goesOn hspawn
      | refused _ begins =>
        rw [begins] at hbegin
        exact goesOn hbegin
      | trained _ begins =>
        rw [begins] at hbegin
        exact goesOn hbegin
      | @sending d c₂ _ begins =>
        rw [begins] at hbegin
        have waits : c₂.duty = c.duty := hbegin
        dsimp only
        rw [duty_suspendVisit (waits ▸ gathering), waits]
        exact .rests

theorem act_resumeVisit (found : c.duty.round id = some (e.owner, .gathering)) (key : String)
    (predictor : Nat) (d : Dispatch) (rest : List (String × Nat))
    (result : Except PredictError Unit) :
    c.duty.Act id answered (c.resumeVisit id e key predictor d rest result).duty := by
  have hset : (c.setEvaluation id { e with phase := .joining }).duty = c.duty :=
    duty_setEvaluation_of_eq found
  have hend := (duty_endDispatch _ predictor d true result).trans hset
  rw [resumeVisit]
  rw [← hend] at found ⊢
  cases result with
  | ok u => exact act_visit (c := Controller.recordTraining _ key predictor) found rest
  | error error => exact act_visit (c := Controller.countFault _ error) found rest

/-! ## Steps -/

theorem duty_endTraining (c : Controller) (n round : Nat) (arrival : Arrival) :
    (c.endTraining n round arrival).duty = c.duty := by
  rw [endTraining]
  split
  · dsimp only
    split
    · exact duty_call_of_none rfl
    · rfl
  · rfl

theorem round_of_size_le (new : c.evaluations.size ≤ id) : c.duty.round id = none :=
  congrArg (Option.map fun e : Evaluation => (e.owner, e.standing))
    ((Arena.get?_eq_none_iff _ _).2 new)

/-- A new round is put beside the others. -/
theorem duty_begun (c : Controller) (owner : Option Nat) :
    (c.begun owner).duty = c.duty.put c.nextEvaluation owner .gathering := by
  refine Duty.ext rfl (funext fun j => ?_) rfl
  change ((c.evaluations.push _).get? j).map _ = _
  by_cases same : j = c.nextEvaluation
  · subst same
    rw [Duty.round_put_self, nextEvaluation, Arena.get?_push_self]
    rfl
  · rw [Duty.round_put_of_ne same, Arena.get?_push, ← nextEvaluation, if_neg same]
    rfl

theorem act_beginEvaluation (c : Controller) (owner : Option Nat) :
    (c.duty.put c.nextEvaluation owner .gathering).Act c.nextEvaluation answered
      (c.beginEvaluation owner).duty := by
  have gathering : (c.begun owner).duty.round c.nextEvaluation = some (owner, .gathering) := by
    rw [duty_begun]
    exact Duty.round_put_self
  rw [← duty_begun]
  exact act_visit gathering c.store.predictors.toList

theorem step_tickEvaluationLoop (waiting : c.duty.loop l = some .waiting) (x : EvaluationLoop) :
    c.duty.Step answered (c.tickEvaluationLoop l x).duty := by
  have fresh : c.duty.round c.nextEvaluation = none := round_of_size_le (Nat.le_refl _)
  have hturn : (c.setEvaluationLoop l { x with
      ticker := x.ticker.next c.now.timer, phase := .evaluating c.nextEvaluation }).duty =
        c.duty.turn l (.evaluating c.nextEvaluation) := duty_setEvaluationLoop waiting _
  refine .begins waiting fresh ?_
  rw [← hturn]
  exact act_beginEvaluation (c.ticked l x) (some l)

theorem step_startEvaluationLoop (starting : c.duty.loop l = some .starting) (x : EvaluationLoop) :
    c.duty.Step answered (c.startEvaluationLoop l x).duty := by
  rw [startEvaluationLoop]
  split
  · rw [duty_setEvaluationLoop starting]
    exact .ends starting fun _ same => by cases same
  · rw [duty_awaitEvaluationTick starting]
    exact .starts starting

theorem duty_abandonEvaluation (found : c.evaluations.get? id = some e) :
    (c.abandonEvaluation id).duty = c.duty.put id e.owner .abandoned := by
  have abandons : ∀ n d, (c.abandonDispatch n d).duty = c.duty := by
    intro n d
    rw [abandonDispatch]
    split <;> rfl
  rw [abandonEvaluation, found]
  dsimp only
  split
  · next n d _ _ =>
    have same := abandons n d
    rw [duty_setEvaluation (same ▸ round_of_get? found), same]
    rfl
  · rw [duty_setEvaluation (round_of_get? found)]
    rfl

theorem step_endEvaluationLoop (sound : c.duty.Sound) {x : EvaluationLoop}
    (found : c.evaluationLoops.get? l = some x) :
    c.duty.Step answered (c.endEvaluationLoop l x).duty := by
  have phase := loop_of_get? found
  rw [endEvaluationLoop.eq_def]
  dsimp only
  split
  · next id evaluating =>
    have evaluating := phase.trans (congrArg some evaluating)
    obtain ⟨s, round, -⟩ := sound.exists_active l id evaluating
    obtain ⟨e, hget, same⟩ := Option.map_eq_some_iff.1 round
    have gone := duty_abandonEvaluation hget
    rw [(Prod.mk.inj same).1] at gone
    rw [duty_setEvaluationLoop (c := c.abandonEvaluation id) (by rw [gone]; exact evaluating), gone]
    exact .givesUp evaluating
  · next idle =>
    rw [duty_setEvaluationLoop phase]
    exact .ends phase idle

theorem step_atEvaluation {f : Evaluation → Controller}
    (h : ∀ e, c.evaluations.get? id = some e → c.duty.Step answered (f e).duty) :
    c.duty.Step answered (c.atEvaluation id f).duty := by
  rw [atEvaluation]
  split
  · next e found => exact h e found
  · exact .of_eq rfl

theorem step_atPrediction (collected : c.Collected) {f : Evaluation → Prediction → Controller}
    (h : ∀ e p, c.evaluations.get? id = some e →
      (p.isDone = false → c.duty.round id = some (e.owner, .gathering) ∧ e.standing = .gathering) →
      c.duty.Step answered (f e p).duty) :
    c.duty.Step answered (c.atPrediction id i f).duty := by
  rw [atPrediction]
  refine step_atEvaluation fun e found => ?_
  split
  · next p mem =>
    split
    · exact .of_eq rfl
    · next active =>
      refine h e p found fun waits => ?_
      have gathering := Evaluation.standing_of_waiting (collected id e found) mem waits
        (Bool.eq_false_iff.2 active)
      exact ⟨gathering ▸ round_of_get? found, gathering⟩
  · exact .of_eq rfl

theorem step_atEvaluationLoop {f : EvaluationLoop → Controller}
    (h : ∀ x, c.evaluationLoops.get? l = some x → c.duty.Step answered (f x).duty) :
    c.duty.Step answered (c.atEvaluationLoop l f).duty := by
  rw [atEvaluationLoop]
  split
  · next x found => exact h x found
  · exact .of_eq rfl

theorem step_handle (sound : c.duty.Sound) (collected : c.Collected) (x : Event) :
    c.duty.Step x.answered? (c.handle x).duty := by
  cases collects : x.collects with
  | true => exact .of_eq (overlooksCollecting_duty.handle c collects)
  | false =>
    cases x with
    | evaluationLoopStarts l =>
      refine step_atEvaluationLoop fun x found => ?_
      split
      · next starting =>
        exact step_startEvaluationLoop ((loop_of_get? found).trans (congrArg some starting)) x
      · exact .of_eq rfl
    | evaluationLoopDue l =>
      refine step_atEvaluationLoop fun x found => ?_
      split
      · next waiting =>
        exact step_tickEvaluationLoop ((loop_of_get? found).trans (congrArg some waiting)) x
      · exact .of_eq rfl
    | evaluationLoopSignalled l =>
      refine step_atEvaluationLoop fun x found => ?_
      split
      · exact step_endEvaluationLoop sound found
      · exact .of_eq rfl
    | predictionStarts id i =>
      refine step_atPrediction collected fun e p found open' => ?_
      split
      · next pending =>
        obtain ⟨gathering, hstanding⟩ := open' (by rw [Prediction.isDone, pending])
        exact .acts (act_startPrediction gathering hstanding i p)
      · exact .of_eq rfl
    | replyArrives id i reply =>
      refine step_atPrediction collected fun e p found open' => ?_
      split
      · next request asking =>
        obtain ⟨gathering, hstanding⟩ := open' (by rw [Prediction.isDone, asking])
        exact .acts (act_takeReply gathering hstanding i p request reply)
      · exact .of_eq rfl
    | predictionCount id i count =>
      refine step_atPrediction collected fun e p found open' => ?_
      split
      · next forecast counting =>
        obtain ⟨gathering, hstanding⟩ := open' (by rw [Prediction.isDone, counting])
        exact .acts (act_readPredictionCount gathering hstanding i p forecast count)
      · exact .of_eq rfl
    | dispatchEnds id result =>
      refine step_atEvaluation fun e found => ?_
      split
      · next key n d rest dispatching =>
        have gathering : e.standing = .gathering := by rw [Evaluation.standing, dispatching]
        exact .acts (act_resumeVisit (gathering ▸ round_of_get? found) key n d rest result)
      · exact .of_eq rfl
    | goalCount id count =>
      refine step_atEvaluation fun e found => ?_
      split
      · next goal reading =>
        have standing : e.standing = .reading := by rw [Evaluation.standing, reading]
        exact .acts (act_readGoalCount (standing ▸ round_of_get? found) goal count)
      · exact .of_eq rfl
    | goalSet id result =>
      refine step_atEvaluation fun e found => ?_
      split
      · next goal action setting =>
        have standing : e.standing = .setting := by rw [Evaluation.standing, setting]
        exact .acts (act_endGoalSet (standing ▸ round_of_get? found) goal action result)
      · exact .of_eq rfl
    | trainingEnds n round arrival => exact .of_eq (c.duty_endTraining n round arrival)
    | _ => cases collects

/-- Whatever happens is one of the steps. -/
theorem step_makes (sound : c.duty.Sound) (collected : c.Collected) (x : Move) :
    c.duty.Step x.answered? (c.makes x).duty := by
  cases x with
  | spawn =>
    have fresh : c.duty.loop c.evaluationLoops.size = none :=
      congrArg (Option.map EvaluationLoop.phase)
        ((Arena.get?_eq_none_iff _ _).2 (Nat.le_refl _))
    have spawned : c.spawnEvaluationLoop.2.duty = c.duty.turn c.evaluationLoops.size .starting := by
      refine (duty_call_of_none rfl).trans (Duty.ext (funext fun k => ?_) rfl rfl)
      change ((c.evaluationLoops.push _).get? k).map _ = _
      by_cases same : k = c.evaluationLoops.size
      · subst same
        rw [Duty.loop_turn_self, Arena.get?_push_self]
        rfl
      · rw [Duty.loop_turn_of_ne same, Arena.get?_push, if_neg same]
        rfl
    rw [makes, spawned]
    exact .spawns fresh
  | turn x =>
    cases x with
    | install metric specs config =>
      exact .of_eq (overlooksCollecting_duty.install (fun _ _ => rfl) (fun _ _ => rfl) c metric
        specs config)
    | remove metricKey =>
      exact .of_eq (overlooksCollecting_duty.remove (fun _ _ => rfl) c metricKey)
    | stop metricKey => exact .of_eq (overlooksCollecting_duty.stop c metricKey)
    | shutDown =>
      refine .of_eq ((view_foldl duty_signalEvaluationLoop _ _).trans ?_)
      exact view_foldl overlooksCollecting_duty.signalCollection _ _
    | evaluate =>
      have fresh : c.duty.round c.nextEvaluation = none := round_of_size_le (Nat.le_refl _)
      exact .serves fresh (act_beginEvaluation c none)
    | event x => exact step_handle sound collected x

end Controller

end PredictiveScaling
