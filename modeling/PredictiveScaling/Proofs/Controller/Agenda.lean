import PredictiveScaling.Proofs.Controller.Records
import Mathlib.Logic.Function.Basic

/-!
# What rounds have before them

While a round waits for the request of a training, it has that predictor and the rest of its visit
before it. Only a round that begins, one whose wait is over and one that is given up have another
agenda after a turn than before it (`Controller.agenda_takes`).
-/
namespace PredictiveScaling

/-- Whether a turn may make a round visit predictors, or give one up. -/
def Turn.walks : Turn → Bool
  | .evaluate => true
  | .event (.evaluationLoopDue _) | .event (.dispatchEnds ..) => true
  | .event (.evaluationLoopSignalled _) => true
  | _ => false

/-- The predictors that a round has before it, unless it was given up. -/
def Evaluation.agenda? (e : Evaluation) : Option (List (String × Nat)) :=
  match e.phase with
  | .dispatching key predictor _ rest => some ((key, predictor) :: rest)
  | .abandoned => none
  | _ => some []

theorem Evaluation.ahead_eq (e : Evaluation) : e.ahead = e.agenda?.getD [] := by
  rw [ahead, agenda?]
  cases e.phase <;> rfl

namespace Controller

/-- The same for a round of a controller, if there is one under the number. -/
def agenda (c : Controller) (id : Nat) : Option (Option (List (String × Nat))) :=
  (c.evaluations.get? id).map Evaluation.agenda?

variable {c c' : Controller} {id : Nat} {e e' : Evaluation}

theorem agenda_of_get? (found : c.evaluations.get? id = some e) : c.agenda id = some e.agenda? := by
  rw [agenda, found]
  rfl

theorem agenda_of_evaluations (same : c'.evaluations = c.evaluations) : c'.agenda = c.agenda := by
  funext id
  rw [agenda, agenda, same]

theorem agenda_of_stage (same : c'.stage = c.stage) : c'.agenda = c.agenda :=
  agenda_of_evaluations (congrArg Stage.evaluations same)

/-- One round changes. -/
theorem agenda_of_modify (found : c.evaluations.get? id = some e)
    (put : c'.evaluations = c.evaluations.modify id fun _ => e') :
    c'.agenda = Function.update c.agenda id (some e'.agenda?) := by
  funext j
  rw [agenda, put, Arena.get?_modify, Function.update_apply]
  by_cases hj : id = j
  · subst hj
    rw [if_pos rfl, if_pos rfl, found]
    rfl
  · rw [if_neg hj, if_neg (Ne.symm hj), agenda]

theorem agenda_of_put (found : c.evaluations.get? id = some e)
    (put : c'.stage = c.stage.put id e') :
    c'.agenda = Function.update c.agenda id (some e'.agenda?) :=
  agenda_of_modify found (congrArg Stage.evaluations put)

/-- One round changes, but not what it has before it. -/
theorem agenda_of_modify_of_eq (found : c.evaluations.get? id = some e)
    (put : c'.evaluations = c.evaluations.modify id fun _ => e') (same : e'.agenda? = e.agenda?) :
    c'.agenda = c.agenda := by
  rw [agenda_of_modify found put, same, ← agenda_of_get? found, Function.update_eq_self]

theorem agenda_of_put_of_eq (found : c.evaluations.get? id = some e)
    (put : c'.stage = c.stage.put id e') (same : e'.agenda? = e.agenda?) : c'.agenda = c.agenda :=
  agenda_of_modify_of_eq found (congrArg Stage.evaluations put) same

/-- A round is added. -/
theorem agenda_of_push (push : c'.evaluations = c.evaluations.push e) :
    c'.agenda = Function.update c.agenda c.nextEvaluation (some e.agenda?) := by
  funext j
  rw [agenda, push, Arena.get?_push, Function.update_apply, ← nextEvaluation]
  split
  · rfl
  · rw [agenda]

/-- Of a round that has not begun there is nothing to tell. -/
theorem agenda_of_size_le (absent : c.evaluations.size ≤ id) : c.agenda id = none := by
  rw [agenda, (Arena.get?_eq_none_iff _ _).2 absent]
  rfl

/-! ## Rounds that have nothing to visit -/

theorem agenda_of_isComplete (complete : e.isComplete = true) : e.agenda? = some [] := by
  rw [Evaluation.isComplete] at complete
  rw [Evaluation.agenda?]
  cases phase : e.phase with
  | joining => rfl
  | _ => simp [phase] at complete

theorem agenda_settled (s : Stage) (e : Evaluation) : (s.settled e).agenda? = e.agenda? := by
  rw [Stage.settled]
  split
  · next complete =>
    rw [agenda_of_isComplete complete, Stage.aimed, Evaluation.withGoal.eq_def]
    split <;> rfl
  · rfl

theorem agenda_received (s : Stage) (e : Evaluation) (i : Nat) (p : Prediction)
    (forecast : Option Forecast) : (s.received e i p forecast).agenda? = e.agenda? := by
  cases forecast with
  | none => exact agenda_settled s _
  | some f =>
    rw [Stage.received]
    split
    · rfl
    · exact agenda_settled s _

theorem agenda_settle (found : c.evaluations.get? id = some e) : (c.settle id).agenda = c.agenda :=
  agenda_of_put_of_eq found (stage_settle found) (agenda_settled c.stage e)

theorem agenda_readGoalCount (found : c.evaluations.get? id = some e) {goal : Goal}
    (reading : e.phase = .reading goal) (count : Except SourceError Int32) :
    (c.readGoalCount id e goal count).agenda = c.agenda := by
  have hnil : e.agenda? = some [] := by rw [Evaluation.agenda?, reading]
  cases count with
  | error cause =>
    exact agenda_of_put_of_eq found (stage_readGoalCount_error c id e goal cause) hnil.symm
  | ok current =>
    cases decided : c.scaler.decide c.now.steady goal.scaleDown current goal.target with
    | mk scaler decision =>
      cases decision with
      | settled result =>
        exact agenda_of_modify_of_eq found
          (congrArg Stage.evaluations (stage_readGoalCount_of_settled decided)) hnil.symm
      | set n action =>
        exact agenda_of_modify_of_eq found
          (congrArg Stage.evaluations (stage_readGoalCount_of_set decided)) hnil.symm

theorem agenda_atEvaluation {f : Evaluation → Controller}
    (h : ∀ e, c.evaluations.get? id = some e → (f e).agenda = c.agenda) :
    (c.atEvaluation id f).agenda = c.agenda := by
  rw [atEvaluation]
  split
  · next e found => exact h e found
  · rfl

theorem agenda_atPrediction {i : Nat} {f : Evaluation → Prediction → Controller}
    (h : ∀ e p, c.evaluations.get? id = some e → (f e p).agenda = c.agenda) :
    (c.atPrediction id i f).agenda = c.agenda := by
  refine agenda_atEvaluation fun e found => ?_
  split
  · split
    · rfl
    · exact h e _ found
  · rfl

theorem agenda_handle (x : Event) (rests : (Turn.event x).walks = false) :
    (c.handle x).agenda = c.agenda := by
  cases x with
  | collectionStarts id => exact agenda_of_stage (stage_atCollection fun l => by simp)
  | collectionDue id => exact agenda_of_stage (stage_atCollection fun l => by simp)
  | collectionSignalled id =>
    refine agenda_of_stage (stage_atCollection fun l => ?_)
    split <;> simp
  | queryEnds id answer => exact agenda_of_stage (stage_atCollection fun l => by simp)
  | evaluationLoopStarts id =>
    rw [handle, atEvaluationLoop]
    split
    · split
      · exact agenda_of_stage (stage_startEvaluationLoop c id _)
      · rfl
    · rfl
  | evaluationLoopDue id => cases rests
  | evaluationLoopSignalled id => cases rests
  | predictionStarts id i =>
    refine agenda_atPrediction fun e p found => ?_
    split
    · have hstage := stage_startPrediction found i p
      cases opens : c.opening p with
      | brings forecast =>
        rw [opens] at hstage
        exact agenda_of_put_of_eq found hstage (agenda_received _ _ _ _ _)
      | asks request =>
        rw [opens] at hstage
        exact agenda_of_put_of_eq found hstage rfl
    · rfl
  | replyArrives id i reply =>
    refine agenda_atPrediction fun e p found => ?_
    split
    · next request _ =>
      exact agenda_of_put_of_eq found (stage_takeReply found i p request reply)
        (agenda_received _ _ _ _ _)
    · rfl
  | predictionCount id i count =>
    refine agenda_atPrediction fun e p found => ?_
    split
    · next forecast _ =>
      exact agenda_of_put_of_eq found (stage_readPredictionCount found i p forecast count)
        (agenda_settled _ _)
    · rfl
  | dispatchEnds id result => cases rests
  | goalCount id count =>
    refine agenda_atEvaluation fun e found => ?_
    split
    · next goal reading => exact agenda_readGoalCount found reading count
    · rfl
  | goalSet id result =>
    refine agenda_atEvaluation fun e found => ?_
    split
    · next goal action setting =>
      exact agenda_of_put_of_eq found (stage_endGoalSet c id e goal action result)
        (by rw [Evaluation.agenda?, Evaluation.agenda?, setting]; rfl)
    · rfl
  | trainingEnds id round arrival => exact agenda_of_stage (stage_endTraining c id round arrival)

/-- In any other turn no round has something else before it afterwards. -/
theorem agenda_takes {x : Turn} (rests : x.walks = false) : (c.takes x).agenda = c.agenda := by
  cases x with
  | install metric specs config =>
    obtain ⟨installed, hstage⟩ := stage_install c metric specs config
    exact agenda_of_evaluations (congrArg Stage.evaluations hstage)
  | remove metricKey =>
    exact agenda_of_evaluations (congrArg Stage.evaluations (stage_remove c metricKey))
  | stop metricKey => exact agenda_of_stage (c.stage_stop metricKey)
  | shutDown => exact agenda_of_stage c.stage_shutDown
  | evaluate => cases rests
  | event x => exact agenda_handle x rests

/-! ## Waits that are over -/

/-- The round goes on with its visit. -/
theorem agenda_resumed (found : c.evaluations.get? id = some e) (key : String) (predictor : Nat)
    (d : Dispatch) (result : Except PredictError Unit) :
    (c.resumed id e key predictor d result).agenda =
      Function.update c.agenda id (some (some [])) :=
  agenda_of_put found (c.stage_resumed id e key predictor d result)

/-! ## Rounds that are given up -/

theorem agenda_abandonEvaluation (found : c.evaluations.get? id = some e) :
    (c.abandonEvaluation id).agenda = Function.update c.agenda id (some none) :=
  agenda_of_put found (stage_abandonEvaluation found)

end Controller

end PredictiveScaling
