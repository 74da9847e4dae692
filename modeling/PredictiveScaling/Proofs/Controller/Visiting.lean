import PredictiveScaling.Controller.Step

/-!
# Visits

A visit comes to one predictor after the other, asks it for a forecast and calls for its training
(`Controller.comes_comeTo`). What it comes to at each of them is all that is told about it
(`Controller.visited`): which predictors are trained, and what else is to be noted.
-/
namespace PredictiveScaling.Controller

/-- What it is to call for a training. -/
inductive Calls (c : Controller) (key : String) (predictor : Nat) (model : ModelSpec) :
    Visited × Controller → Prop where
  | spared (undue : ¬ (model.needTrain = true ∧ c.trainingDue key model.updateInterval = true)) :
      Calls c key predictor model (.spared, c)
  | refused {error : PredictError} {c' : Controller}
      (due : model.needTrain = true ∧ c.trainingDue key model.updateInterval = true)
      (begins : c.beginTraining predictor = (.error error, c')) :
      Calls c key predictor model (.refused error, c'.countFault error)
  | trained {c' : Controller}
      (due : model.needTrain = true ∧ c.trainingDue key model.updateInterval = true)
      (begins : c.beginTraining predictor = (.ok none, c')) :
      Calls c key predictor model (.trained, c'.recordTraining key predictor)
  | sending {d : Dispatch} {c' : Controller}
      (due : model.needTrain = true ∧ c.trainingDue key model.updateInterval = true)
      (begins : c.beginTraining predictor = (.ok (some d), c')) :
      Calls c key predictor model (.sending d, c')

theorem calls_callTraining (c : Controller) (key : String) (predictor : Nat) (model : ModelSpec) :
    c.Calls key predictor model (c.callTraining key predictor model) := by
  rw [callTraining]
  split
  · next due =>
    split
    · next begins => exact .refused due begins
    · next begins => exact .trained due begins
    · next begins => exact .sending due begins
  · next undue => exact .spared undue

/-- What it is to come to a predictor. -/
inductive Comes (c : Controller) (id : Nat) (key : String) (predictor : Nat) :
    Visited × Controller → Prop where
  | missing {fault : SyncFault} (unresolved : c.store.resolve key = .error fault) :
      Comes c id key predictor (.missing, c)
  /-- It is asked for a forecast, and its training is called for. -/
  | called {model : ModelSpec} {metric : Metric} {c₁ : Controller} {come : Visited × Controller}
      (resolved : c.store.resolve key = .ok (model, metric))
      (asked : c.spawnPrediction id key predictor metric.target = c₁)
      (calls : c₁.Calls key predictor model come) : Comes c id key predictor come

theorem comes_comeTo (c : Controller) (id : Nat) (key : String) (predictor : Nat) :
    c.Comes id key predictor (c.comeTo id key predictor) := by
  rw [comeTo]
  split
  · next unresolved => exact .missing unresolved
  · next resolved => exact .called resolved rfl (calls_callTraining _ _ _ _)

/-- What a visit comes to at the predictors, one after the other. -/
def visited (c : Controller) (id : Nat) : List (String × Nat) → List ((String × Nat) × Visited)
  | [] => []
  | (key, predictor) :: rest =>
    match c.comeTo id key predictor with
    | (.sending d, _) => [((key, predictor), .sending d)]
    | (x, c) => ((key, predictor), x) :: c.visited id rest

/-- A visit comes to predictors in turn, up to one that it has to wait for. -/
theorem map_fst_visited_prefix (c : Controller) (id : Nat) (l : List (String × Nat)) :
    (c.visited id l).map Prod.fst <+: l := by
  induction l generalizing c with
  | nil => exact List.prefix_refl _
  | cons x rest ih =>
    obtain ⟨key, predictor⟩ := x
    rw [visited]
    split
    · exact List.prefix_append [(key, predictor)] rest
    · exact List.cons_prefix_cons.2 ⟨rfl, ih _⟩

end PredictiveScaling.Controller
