import PredictiveScaling.Proofs.Controller.Visiting
import PredictiveScaling.Proofs.Evaluation.Round

/-!
# Visiting predictors

A visit goes through predictors and lets the forecast of each begin whose model and metric
are installed. It comes to the end of the list, where the goal is set if nothing is left to
wait for, or it is suspended while the request of a training goes out.
-/
namespace PredictiveScaling

/-- The forecasts that a visit to predictors lets begin. -/
def Installed.visited (x : Installed) (predictors : List (String × Nat)) : List Prediction :=
  predictors.filterMap fun (key, predictor) =>
    (x.metricFor? key).map fun metric => ⟨key, predictor, metric.target, .pending⟩

namespace Installed

variable {x : Installed} {key : String} {predictor : Nat} {rest : List (String × Nat)}

theorem visited_append (x : Installed) (l l' : List (String × Nat)) :
    x.visited (l ++ l') = x.visited l ++ x.visited l' :=
  List.filterMap_append

theorem visited_cons_of_none (predictor : Nat) (rest : List (String × Nat))
    (h : x.metricFor? key = none) :
    x.visited ((key, predictor) :: rest) = x.visited rest := by
  simp [visited, h]

theorem visited_cons_of_some {metric : Metric} (h : x.metricFor? key = some metric) :
    x.visited ((key, predictor) :: rest) =
      ⟨key, predictor, metric.target, .pending⟩ :: x.visited rest := by
  simp [visited, h]

end Installed

namespace Store

variable {s : Store} {key : String}

theorem metricFor?_of_resolve_error {fault : SyncFault} (h : s.resolve key = .error fault) :
    s.installed.metricFor? key = none := by
  rw [resolve] at h
  rw [installed, Installed.metricFor?]
  cases hmodel : s.models.find? key with
  | none => rfl
  | some model =>
    cases hsplit : splitPredictorKey? key with
    | none => rfl
    | some parts =>
      cases hmetric : s.metrics.find? parts.1 with
      | none => exact hmetric
      | some metric => simp [hmodel, hsplit, hmetric] at h

theorem metricFor?_of_resolve_ok {model : ModelSpec} {metric : Metric}
    (h : s.resolve key = .ok (model, metric)) : s.installed.metricFor? key = some metric := by
  rw [resolve] at h
  rw [installed, Installed.metricFor?]
  cases hmodel : s.models.find? key with
  | none => simp [hmodel] at h
  | some found =>
    cases hsplit : splitPredictorKey? key with
    | none => simp [hmodel, hsplit] at h
    | some parts =>
      cases hmetric : s.metrics.find? parts.1 with
      | none => simp [hmodel, hsplit, hmetric] at h
      | some other =>
        simp only [hmodel, hsplit, hmetric, Except.ok.injEq, Prod.mk.injEq] at h
        rw [← h.2]
        exact hmetric

end Store

namespace Stage

variable {s : Stage} {e e' : Evaluation} {id : Nat} {l : List (String × Nat)}

/-- What a visit to predictors may make of a round. -/
inductive Visits (s : Stage) (e : Evaluation) (l : List (String × Nat)) : Evaluation → Prop where
  | all : Visits s e l (s.settled { e with predictions := e.predictions ++ s.installed.visited l })
  | suspended (before : List (String × Nat)) {rest : List (String × Nat)} {key : String}
      {predictor : Nat} (d : Dispatch) (split : l = before ++ (key, predictor) :: rest) :
      Visits s e l { e with
        predictions := e.predictions ++ s.installed.visited (before ++ [(key, predictor)])
        phase := .dispatching key predictor d rest }

theorem Visits.of_put {e₁ : Evaluation} (hv : (s.put id e₁).Visits e l e') : s.Visits e l e' := by
  cases hv with
  | all => exact .all
  | suspended before d split => exact .suspended before d split

/-- A predictor without a model or a metric is passed over. -/
theorem Visits.skip {key : String} {predictor : Nat} (h : s.installed.metricFor? key = none)
    (hv : s.Visits e l e') : s.Visits e ((key, predictor) :: l) e' := by
  cases hv with
  | all =>
    rw [← Installed.visited_cons_of_none predictor l h]
    exact .all
  | @suspended before rest key' predictor' d split =>
    rw [← Installed.visited_cons_of_none predictor _ h]
    exact .suspended ((key, predictor) :: before) d (by rw [split, List.cons_append])

/-- Any other one is visited. -/
theorem Visits.cons {key : String} {predictor : Nat} {metric : Metric}
    (h : s.installed.metricFor? key = some metric)
    (hv : s.Visits { e with
      predictions := e.predictions ++ [⟨key, predictor, metric.target, .pending⟩] } l e') :
    s.Visits e ((key, predictor) :: l) e' := by
  have hjoin : ∀ l' : List (String × Nat),
      e.predictions ++ [⟨key, predictor, metric.target, .pending⟩] ++ s.installed.visited l' =
        e.predictions ++ s.installed.visited ((key, predictor) :: l') := by
    intro l'
    rw [Installed.visited_cons_of_some h, List.append_assoc, List.singleton_append]
  cases hv with
  | all =>
    change s.Visits e _ (s.settled { e with
      predictions := e.predictions ++ _ ++ s.installed.visited l })
    rw [hjoin]
    exact .all
  | @suspended before rest key' predictor' d split =>
    change s.Visits e _ { e with
      predictions := e.predictions ++ _ ++ s.installed.visited (before ++ [(key', predictor')])
      phase := .dispatching key' predictor' d rest }
    rw [hjoin]
    exact .suspended ((key, predictor) :: before) d (by rw [split, List.cons_append])

end Stage

namespace Controller

variable {c : Controller} {id : Nat} {e : Evaluation}

theorem stage_spawnPrediction (h : c.evaluations.get? id = some e) (key : String)
    (predictor : Nat) (target : Float) :
    (c.spawnPrediction id key predictor target).stage = c.stage.put id { e with
      predictions := e.predictions ++ [⟨key, predictor, target, .pending⟩] } := by
  rw [spawnPrediction]
  rw [h]
  dsimp only
  rw [stage_soon, stage_setEvaluation]

theorem stage_suspendVisit (h : c.evaluations.get? id = some e) (key : String) (predictor : Nat)
    (d : Dispatch) (rest : List (String × Nat)) :
    (c.suspendVisit id key predictor d rest).stage =
      c.stage.put id { e with phase := .dispatching key predictor d rest } := by
  rw [suspendVisit]
  rw [h]
  dsimp only
  rw [stage_call_of_set?_eq_none _ rfl, stage_setEvaluation]

/-- A controller whose stage has this round in place has it among its rounds. -/
theorem get?_of_stage_eq_put {c' : Controller} {e' : Evaluation}
    (h : c.evaluations.get? id = some e) (hstage : c'.stage = c.stage.put id e') :
    c'.evaluations.get? id = some e' := by
  rw [← stage_evaluations, hstage]
  exact get?_setEvaluation h e'

theorem stage_visit {l : List (String × Nat)} (h : c.evaluations.get? id = some e) :
    ∃ e', (c.visit id l).stage = c.stage.put id e' ∧ c.stage.Visits e l e' := by
  induction l generalizing c e with
  | nil =>
    refine ⟨c.stage.settled e, stage_settle h, ?_⟩
    have hall := Stage.Visits.all (s := c.stage) (e := e) (l := [])
    rwa [Installed.visited, List.filterMap_nil, List.append_nil] at hall
  | cons x rest ih =>
    obtain ⟨key, predictor⟩ := x
    rw [visit]
    have hcomes := c.comes_comeTo id key predictor
    generalize c.comeTo id key predictor = come at hcomes ⊢
    cases hcomes with
    | missing unresolved =>
      obtain ⟨e', hstage, hv⟩ := ih h
      exact ⟨e', hstage, hv.skip (Store.metricFor?_of_resolve_error unresolved)⟩
    | @called model metric c₁ _ resolved asked calls =>
      have hmetric : c.stage.installed.metricFor? key = some metric :=
        Store.metricFor?_of_resolve_ok resolved
      have hspawn := stage_spawnPrediction h key predictor metric.target
      rw [asked] at hspawn
      -- whatever else is done for this predictor, the visit goes on from the same stage
      have goesOn : ∀ c₂ : Controller, c₂.stage = c₁.stage → ∃ e',
          (c₂.visit id rest).stage = c.stage.put id e' ∧
            c.stage.Visits e ((key, predictor) :: rest) e' := by
        intro c₂ hc₂
        rw [hspawn] at hc₂
        obtain ⟨e', hstage, hv⟩ := ih (get?_of_stage_eq_put h hc₂)
        rw [hc₂] at hstage hv
        exact ⟨e', hstage.trans (Stage.put_put _ _ _ _), hv.of_put.cons hmetric⟩
      have hbegin := c₁.stage_beginTraining predictor
      cases calls with
      | spared => exact goesOn c₁ rfl
      | refused _ begins => exact goesOn _ (by rw [stage_countFault, ← hbegin, begins])
      | trained _ begins => exact goesOn _ (by rw [stage_recordTraining, ← hbegin, begins])
      | @sending d c₂ _ begins =>
        rw [begins, hspawn] at hbegin
        refine ⟨_, (stage_suspendVisit (get?_of_stage_eq_put h hbegin) ..).trans ?_,
          .suspended [] d rfl⟩
        rw [hbegin, Stage.put_put, List.nil_append, Installed.visited_cons_of_some hmetric]
        rfl

/-- The wait for the request of a training is over. -/
theorem stage_resumed (c : Controller) (id : Nat) (e : Evaluation) (key : String)
    (predictor : Nat) (d : Dispatch) (result : Except PredictError Unit) :
    (c.resumed id e key predictor d result).stage =
      c.stage.put id { e with phase := .joining } := by
  cases result with
  | ok u =>
    simp only [resumed]
    rw [stage_recordTraining, stage_endDispatch, stage_setEvaluation]
  | error error =>
    simp only [resumed]
    rw [stage_countFault, stage_endDispatch, stage_setEvaluation]

/-- The visit goes on after the request of a training. -/
theorem stage_resumeVisit (h : c.evaluations.get? id = some e) (key : String) (predictor : Nat)
    (d : Dispatch) (rest : List (String × Nat)) (result : Except PredictError Unit) :
    ∃ e', (c.resumeVisit id e key predictor d rest result).stage = c.stage.put id e' ∧
      c.stage.Visits { e with phase := .joining } rest e' := by
  have joined := c.stage_resumed id e key predictor d result
  obtain ⟨e', hstage, hv⟩ := stage_visit (l := rest) (get?_of_stage_eq_put h joined)
  rw [joined] at hstage hv
  exact ⟨e', hstage.trans (Stage.put_put _ _ _ _), hv.of_put⟩

/-- A round begins with a visit to all predictors. -/
theorem stage_beginEvaluation (c : Controller) (owner : Option Nat) :
    ∃ e', (c.beginEvaluation owner).stage =
        { c.stage with evaluations := c.evaluations.push e' } ∧
      c.stage.Visits (.start owner c.store.predictors.toList.length) c.store.predictors.toList
        e' := by
  let e : Evaluation := .start owner c.store.predictors.toList.length
  have hget : (c.begun owner).evaluations.get? c.evaluations.size = some e :=
    Arena.get?_push_self _ _
  obtain ⟨e', hstage, hv⟩ := stage_visit (l := c.store.predictors.toList) hget
  have hput : (c.begun owner).stage.put c.evaluations.size e' =
      { c.stage with evaluations := c.evaluations.push e' } := by
    have hmodify := Arena.modify_push_self c.evaluations e fun _ => e'
    rw [Stage.put]
    exact congrArg (fun a => { c.stage with evaluations := a }) hmodify
  refine ⟨e', hstage.trans hput, ?_⟩
  -- the new round is not among what the visit depends on
  cases hv with
  | all => exact .all
  | suspended before d split => exact .suspended before d split

/-- A round is given up. -/
theorem stage_abandonEvaluation (h : c.evaluations.get? id = some e) :
    (c.abandonEvaluation id).stage = c.stage.put id { e with phase := .abandoned } := by
  rw [abandonEvaluation]
  rw [h]
  dsimp only
  rw [stage_setEvaluation]
  split <;> simp

end Controller

end PredictiveScaling
