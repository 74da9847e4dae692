import PredictiveScaling.Proofs.Controller.Removal
import PredictiveScaling.Proofs.Controller.Visiting
import PredictiveScaling.Proofs.Store.Records

/-!
# Trainings in turns

A round trains what it comes to in its visit if that is due. A model that is computed here is
trained at once; the training of a served model has to be sent first, and the round waits meanwhile
with the rest of the visit before it. What is trained is recorded in the same turn, under the key
and for the predictor that the round has had from its beginning, and nothing else is recorded.
-/
namespace PredictiveScaling.Controller

variable {c : Controller}

/-! ## Visits that turns lead to -/

/-- A visit. -/
structure Walk where
  controller : Controller
  round : Nat
  /-- The predictors that it is to come to. -/
  ahead : List (String × Nat)
  /-- The predictor whose request the round has waited for, and what has come of the request. -/
  answered? : Option ((String × Nat) × Except PredictError Unit)

/-- The visit of a new round. -/
def firstWalk (c : Controller) (owner : Option Nat) : Walk :=
  ⟨c.begun owner, c.nextEvaluation, c.store.predictors.toList, none⟩

/-- The visit that a turn leads to. -/
def walk? (c : Controller) : Turn → Option Walk
  | .evaluate => some (c.firstWalk none)
  | .event (.evaluationLoopDue id) =>
    match c.evaluationLoops.get? id with
    | some l => if l.phase = .waiting then some ((c.ticked id l).firstWalk (some id)) else none
    | none => none
  | .event (.dispatchEnds id result) =>
    match c.evaluations.get? id with
    | some e =>
      match e.phase with
      | .dispatching key predictor d rest =>
        some ⟨c.resumed id e key predictor d result, id, rest, some ((key, predictor), result)⟩
      | _ => none
    | none => none
  | _ => none

/-- How a turn leads to a visit. -/
inductive Leads (c : Controller) : Turn → Walk → Prop where
  | evaluates : Leads c .evaluate (c.firstWalk none)
  | ticks {id : Nat} {l : EvaluationLoop} (found : c.evaluationLoops.get? id = some l)
      (waiting : l.phase = .waiting) :
      Leads c (.event (.evaluationLoopDue id)) ((c.ticked id l).firstWalk (some id))
  | goesOn {id predictor : Nat} {result : Except PredictError Unit} {e : Evaluation} {key : String}
      {d : Dispatch} {rest : List (String × Nat)} (found : c.evaluations.get? id = some e)
      (dispatching : e.phase = .dispatching key predictor d rest) :
      Leads c (.event (.dispatchEnds id result))
        ⟨c.resumed id e key predictor d result, id, rest, some ((key, predictor), result)⟩

variable {x : Turn} {w : Walk}

theorem leads_of_walk? (h : c.walk? x = some w) : c.Leads x w := by
  rw [walk?.eq_def] at h
  split at h
  · cases h
    exact .evaluates
  · split at h
    · next l found =>
      split at h
      · next waiting =>
        cases h
        exact .ticks found waiting
      · cases h
    · cases h
  · split at h
    · next e found =>
      split at h
      · next dispatching =>
        cases h
        exact .goesOn found dispatching
      · cases h
    · cases h
  · cases h

theorem Leads.takes_eq (h : c.Leads x w) : c.takes x = w.controller.visit w.round w.ahead := by
  cases h with
  | evaluates => rfl
  | ticks found waiting =>
    rw [takes, handle, atEvaluationLoop, found]
    exact if_pos waiting
  | goesOn found dispatching =>
    rw [takes, handle, atEvaluation, found]
    dsimp only
    rw [dispatching]
    rfl

/-- A loop that does not wait takes no notice of its ticker. -/
theorem takes_evaluationLoopDue_of_none {id : Nat}
    (h : c.walk? (.event (.evaluationLoopDue id)) = none) :
    c.takes (.event (.evaluationLoopDue id)) = c := by
  rw [takes, handle, atEvaluationLoop]
  cases found : c.evaluationLoops.get? id with
  | none => rfl
  | some l =>
    refine if_neg fun waiting => ?_
    rw [walk?, found] at h
    dsimp only at h
    rw [if_pos waiting] at h
    cases h

/-- Nor a round that does not wait for a request of what comes of one. -/
theorem takes_dispatchEnds_of_none {id : Nat} {result : Except PredictError Unit}
    (h : c.walk? (.event (.dispatchEnds id result)) = none) :
    c.takes (.event (.dispatchEnds id result)) = c := by
  rw [takes, handle, atEvaluation]
  cases found : c.evaluations.get? id with
  | none => rfl
  | some e =>
    dsimp only
    cases phase : e.phase with
    | dispatching key predictor d rest =>
      rw [walk?, found] at h
      dsimp only at h
      rw [phase] at h
      cases h
    | _ => rfl

/-! ## What is trained -/

def Visited.isTrained : Visited → Bool
  | .trained => true
  | _ => false

/-- The predictors that a visit trains at once. -/
def trains (c : Controller) (id : Nat) (l : List (String × Nat)) : List (String × Nat) :=
  ((c.visited id l).filter fun x => x.2.isTrained).map Prod.fst

/-- The predictor whose request a round has waited for, if the request went out. -/
def sent : Option ((String × Nat) × Except PredictError Unit) → List (String × Nat)
  | some (x, .ok ()) => [x]
  | _ => []

/-- The predictors that are trained on a visit, under the keys that their trainings are recorded
under. -/
def Walk.trains (w : Walk) : List (String × Nat) :=
  sent w.answered? ++ w.controller.trains w.round w.ahead

/-- The predictors that are trained in a turn. -/
def trained (c : Controller) (x : Turn) : List (String × Nat) :=
  ((c.walk? x).map Walk.trains).getD []

theorem trains_sublist (c : Controller) (id : Nat) (l : List (String × Nat)) :
    (c.trains id l).Sublist l :=
  (List.filter_sublist.map _).trans (c.map_fst_visited_prefix id l).sublist

/-- What a visit is not to come to, it does not train. -/
theorem notMem_trains {key : String} {l : List (String × Nat)} (absent : key ∉ l.map Prod.fst)
    (c : Controller) (id : Nat) : key ∉ (c.trains id l).map Prod.fst := fun mem =>
  absent (((c.trains_sublist id l).map Prod.fst).subset mem)

/-- What is trained was registered when its round began: now, or before the wait. -/
theorem trained_sublist (c : Controller) (x : Turn) :
    (c.trained x).Sublist c.store.predictors.toList ∨
      ∃ id result e, x = .event (.dispatchEnds id result) ∧ c.evaluations.get? id = some e ∧
        (c.trained x).Sublist e.ahead := by
  rw [trained]
  cases hwalk : c.walk? x with
  | none => exact .inl (List.nil_sublist _)
  | some w =>
    cases leads_of_walk? hwalk with
    | evaluates => exact .inl (trains_sublist _ _ _)
    | ticks => exact .inl (trains_sublist _ _ _)
    | @goesOn id predictor result e key d rest found dispatching =>
      refine .inr ⟨id, result, e, rfl, found, ?_⟩
      rw [Evaluation.ahead, dispatching]
      have hrest := trains_sublist (c.resumed id e key predictor d result) id rest
      cases result with
      | ok u => exact hrest.cons_cons _
      | error error => exact hrest.cons _

/-! ## What is recorded -/

/-- What records depend on. -/
def booking (c : Controller) : Store × Nat := (c.store, c.now.steady)

theorem overlooks_booking : Overlooks booking where
  call _ _ _ := rfl
  evaluations _ _ := rfl
  evaluationLoops _ _ := rfl
  awaited _ _ := rfl
  scaler _ _ := rfl
  reports _ _ _ _ := rfl
  telemetry _ _ := rfl
  putRemote _ _ _ _ := rfl

/-- A visit records what it trains. -/
theorem store_visit (c : Controller) (id : Nat) (l : List (String × Nat)) :
    (c.visit id l).store = c.store.recordAll c.now.steady (c.trains id l) := by
  induction l generalizing c with
  | nil => exact congrArg Prod.fst (overlooks_booking.settle c id)
  | cons x rest ih =>
    obtain ⟨key, predictor⟩ := x
    have goesOn : ∀ c₁ : Controller, c₁.booking = c.booking →
        (c₁.visit id rest).store = c.store.recordAll c.now.steady (c₁.trains id rest) := by
      intro c₁ h
      obtain ⟨hstore, hnow⟩ := Prod.mk.inj h
      rw [ih, hstore, hnow]
    rw [visit, trains, visited]
    have hcomes := c.comes_comeTo id key predictor
    generalize c.comeTo id key predictor = come at hcomes ⊢
    cases hcomes with
    | missing => exact goesOn c rfl
    | @called model metric c₁ _ _ asked calls =>
      have hspawn := overlooks_booking.spawnPrediction c id key predictor metric.target
      rw [asked] at hspawn
      have hbegin := (overlooks_booking.beginTraining c₁ predictor).trans hspawn
      cases calls with
      | spared => exact goesOn c₁ hspawn
      | refused _ begins =>
        rw [begins] at hbegin
        exact goesOn _ hbegin
      | trained _ begins =>
        rw [begins] at hbegin
        obtain ⟨hstore, hnow⟩ := Prod.mk.inj hbegin
        dsimp only
        rw [ih, ← hstore, ← hnow]
        rfl
      | @sending d c₂ _ begins =>
        rw [begins] at hbegin
        exact congrArg Prod.fst
          ((overlooks_booking.suspendVisit c₂ id key predictor d rest).trans hbegin)

theorem booking_resumed (c : Controller) (id : Nat) (e : Evaluation) (key : String)
    (predictor : Nat) (d : Dispatch) (result : Except PredictError Unit) :
    (c.resumed id e key predictor d result).booking =
      (c.store.recordAll c.now.steady (sent (some ((key, predictor), result))), c.now.steady) := by
  have hend : ((c.setEvaluation id { e with phase := .joining }).endDispatch predictor d true
      result).booking = c.booking := overlooks_booking.endDispatch _ predictor d true result
  obtain ⟨hstore, hsteady⟩ := Prod.mk.inj hend
  cases result with
  | ok u =>
    refine Prod.ext ?_ hsteady
    exact congrArg₂ (fun s t => s.recordTraining key ⟨t, predictor⟩) hstore hsteady
  | error error => exact hend

theorem store_resumeVisit (c : Controller) (id : Nat) (e : Evaluation) (key : String)
    (predictor : Nat) (d : Dispatch) (rest : List (String × Nat))
    (result : Except PredictError Unit) :
    (c.resumeVisit id e key predictor d rest result).store = c.store.recordAll c.now.steady
      (sent (some ((key, predictor), result)) ++
        (c.resumed id e key predictor d result).trains id rest) := by
  obtain ⟨hstore, hnow⟩ := Prod.mk.inj (c.booking_resumed id e key predictor d result)
  rw [resumeVisit, store_visit, hstore, hnow, Store.recordAll, Store.recordAll, Store.recordAll,
    List.foldl_append]

/-- A turn that leads to a visit records what is trained on it. -/
theorem Leads.store_takes (h : c.Leads x w) :
    (c.takes x).store = c.store.recordAll c.now.steady w.trains := by
  rw [h.takes_eq]
  cases h with
  | evaluates => exact store_visit (c.begun none) _ _
  | @ticks id l => exact store_visit ((c.ticked id l).begun (some id)) _ _
  | @goesOn id predictor result e key d rest =>
    exact c.store_resumeVisit id e key predictor d rest result

theorem inventory_stop (c : Controller) (metricKey : String) :
    (c.stop metricKey).2.inventory = c.inventory := by
  rw [stop]
  split
  · rfl
  · exact c.inventory_signalCollection _

theorem inventory_shutDown (c : Controller) : c.shutDown.2.inventory = c.inventory := by
  rw [overlooks_inventory.shutDown]
  exact view_foldl inventory_signalCollection _ _

/-- A turn in which nothing is installed or removed records what it trains. -/
theorem store_takes (keeps : x.replaces? = none) :
    (c.takes x).store = c.store.recordAll c.now.steady (c.trained x) := by
  rw [trained]
  cases hwalk : c.walk? x with
  | some w => exact (leads_of_walk? hwalk).store_takes
  | none =>
    cases x with
    | install metric specs config => cases keeps
    | remove metricKey => cases keeps
    | stop metricKey => exact congrArg Inventory.store (c.inventory_stop metricKey)
    | shutDown => exact congrArg Inventory.store c.inventory_shutDown
    | evaluate => cases hwalk
    | event x =>
      cases x with
      | evaluationLoopDue id => exact congrArg store (takes_evaluationLoopDue_of_none hwalk)
      | dispatchEnds id result => exact congrArg store (takes_dispatchEnds_of_none hwalk)
      | _ => exact congrArg Inventory.store (inventory_handle _ rfl)

end PredictiveScaling.Controller
