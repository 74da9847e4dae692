import PredictiveScaling.Proofs.Controller.View

/-!
# What a controller has in store

Next to the store itself it matters which collector a predictor reads, and for which metric a
collector was made. None of this changes while a controller collects, trains and evaluates,
except that trainings are kept in mind, and only of predictors that a round has visited.
-/
namespace PredictiveScaling

/-- The store, and what the numbers in it stand for. -/
structure Inventory where
  store : Store
  /-- The key of the metric of a collector. -/
  collector? : Nat → Option String
  /-- The key of a predictor, and the collector that it reads. -/
  predictor? : Nat → Option (String × Nat)

/-- The second inventory is the first one but for trainings under these keys. -/
structure Inventory.Records (x y : Inventory) (keys : List String) : Prop where
  collector?_eq : y.collector? = x.collector?
  predictor?_eq : y.predictor? = x.predictor?
  store_eq : y.store = { x.store with trainings := y.store.trainings }
  of_trainings : ∀ key, y.store.trainings.contains key = true →
    x.store.trainings.contains key = true ∨ key ∈ keys

namespace Inventory

variable {x y z : Inventory} {keys keys' : List String}

theorem Records.of_eq (h : y = x) (keys : List String) : x.Records y keys := by
  subst h
  exact ⟨rfl, rfl, rfl, fun _ h => .inl h⟩

theorem Records.trans (h : x.Records y keys) (h' : y.Records z keys') (sub : keys ⊆ keys') :
    x.Records z keys' := by
  refine ⟨h'.collector?_eq.trans h.collector?_eq, h'.predictor?_eq.trans h.predictor?_eq, ?_, ?_⟩
  · rw [h'.store_eq]
    rw [h.store_eq]
  · intro key hz
    rcases h'.of_trainings key hz with hy | hkey
    · exact (h.of_trainings key hy).imp_right fun hkey => sub hkey
    · exact .inr hkey

theorem Records.mono (h : x.Records y keys) (sub : keys ⊆ keys') : x.Records y keys' :=
  h.trans (.of_eq rfl keys') sub

end Inventory

namespace Controller

def inventory (c : Controller) : Inventory where
  store := c.store
  collector? n := (c.collectors.get? n).map Collector.key
  predictor? n := (c.predictors.get? n).map fun p => (p.key, p.collector)

variable (c : Controller)

@[simp] theorem store_inventory : c.inventory.store = c.store := rfl

/-! ## Calls and reports -/

@[simp] theorem inventory_call (x : Call) : (c.call x).inventory = c.inventory := rfl

@[simp] theorem inventory_setCollectionLoop (id : Nat) (l : CollectionLoop) :
    (c.setCollectionLoop id l).inventory = c.inventory := rfl

@[simp] theorem inventory_reportHealthy (component : String) :
    (c.reportHealthy component).inventory = c.inventory := rfl

@[simp] theorem inventory_reportDegraded (component message : String) :
    (c.reportDegraded component message).inventory = c.inventory := rfl

@[simp] theorem inventory_count (f : Telemetry → Telemetry) :
    (c.count f).inventory = c.inventory := rfl

/-! ## Collecting -/

@[simp] theorem inventory_awaitCollectionTick (id : Nat) (l : CollectionLoop) :
    (c.awaitCollectionTick id l).inventory = c.inventory := by
  simp only [awaitCollectionTick]
  split <;> rfl

@[simp] theorem inventory_endCollection (id : Nat) (l : CollectionLoop) :
    (c.endCollection id l).inventory = c.inventory := by
  simp only [endCollection]
  split <;> rfl

@[simp] theorem inventory_startCollection (id : Nat) (l : CollectionLoop) :
    (c.startCollection id l).inventory = c.inventory := by
  simp only [startCollection]
  split <;> split <;> simp

@[simp] theorem inventory_tickCollection (id : Nat) (l : CollectionLoop) :
    (c.tickCollection id l).inventory = c.inventory := by
  simp only [tickCollection]
  split <;> simp

/-- Samples come in, and the collectors stay those of their metrics. -/
theorem inventory_modify_collectors (n : Nat) (f : Collector → Collector)
    (h : ∀ x, (f x).key = x.key) :
    ({ c with collectors := c.collectors.modify n f } : Controller).inventory = c.inventory := by
  have hkeys : ∀ m, ((c.collectors.modify n f).get? m).map Collector.key =
      (c.collectors.get? m).map Collector.key := by
    intro m
    rw [Arena.get?_modify]
    split
    · cases c.collectors.get? m with
      | none => rfl
      | some x => exact congrArg some (h x)
    · rfl
  simp only [inventory, hkeys]

@[simp] theorem inventory_takeAnswer (collector : Nat)
    (answer : Option (Except SourceError (List Sample))) :
    (c.takeAnswer collector answer).inventory = c.inventory := by
  cases answer with
  | none => rfl
  | some a =>
    refine c.inventory_modify_collectors collector _ fun x => ?_
    cases a <;> rfl

@[simp] theorem inventory_endQuery (id : Nat) (l : CollectionLoop)
    (answer : Option (Except SourceError (List Sample))) :
    (c.endQuery id l answer).inventory = c.inventory := by
  simp only [endQuery, inventory_awaitCollectionTick]
  split
  · split <;> simp
  · simp

@[simp] theorem inventory_signalCollection (id : Nat) :
    (c.signalCollection id).inventory = c.inventory := by
  rw [signalCollection]
  split
  · rfl
  · dsimp only
    split <;> rfl

@[simp] theorem inventory_signalIfAny (loop : Option Nat) :
    (c.signalIfAny loop).inventory = c.inventory := by
  simp only [signalIfAny]
  split <;> simp

/-! ## Training -/

/-- The model of a predictor changes, and the predictor stays what it is. -/
@[simp] theorem inventory_putRemote (id : Nat) (r : RemotePredictor) (sockets : Sockets) :
    (c.putRemote id r sockets).inventory = c.inventory := by
  have hpredictors : ∀ n, ((c.predictors.modify id fun p => { p with model := .remote r }).get?
      n).map (fun p => (p.key, p.collector)) =
        (c.predictors.get? n).map fun p => (p.key, p.collector) := by
    intro n
    rw [Arena.get?_modify]
    split
    · cases c.predictors.get? n <;> rfl
    · rfl
  simp only [inventory, putRemote, hpredictors]

/-- Nothing in store changes while models are trained and rounds go on. -/
theorem overlooks_inventory : Overlooks inventory where
  call _ _ _ := rfl
  evaluations _ _ := rfl
  evaluationLoops _ _ := rfl
  awaited _ _ := rfl
  scaler _ _ := rfl
  reports _ _ _ _ := rfl
  telemetry _ _ := rfl
  putRemote := inventory_putRemote

/-- But a training is kept in mind. -/
theorem records_recordTraining (key : String) (id : Nat) :
    c.inventory.Records (c.recordTraining key id).inventory [key] := by
  refine ⟨rfl, rfl, rfl, ?_⟩
  intro key' h
  have h : (c.store.trainings.insert key ⟨c.now.steady, id⟩).contains key' = true := h
  rw [KeyMap.contains_insert, Bool.or_eq_true, decide_eq_true_eq] at h
  rcases h with rfl | h
  · exact .inr (List.mem_singleton.2 rfl)
  · exact .inl h

/-! ## Visiting -/

variable {c}

/-- A visit keeps trainings in mind of the predictors that it comes to. -/
theorem records_visit (id : Nat) (l : List (String × Nat)) :
    c.inventory.Records (c.visit id l).inventory (l.map Prod.fst) := by
  induction l generalizing c with
  | nil => exact .of_eq (overlooks_inventory.settle c id) _
  | cons x rest ih =>
    obtain ⟨key, predictor⟩ := x
    have hrest : rest.map Prod.fst ⊆ ((key, predictor) :: rest).map Prod.fst :=
      List.subset_cons_self _ _
    -- the visit goes on with the same things in store
    have goesOn : ∀ c₁ : Controller, c₁.inventory = c.inventory →
        c.inventory.Records (c₁.visit id rest).inventory (((key, predictor) :: rest).map
          Prod.fst) := by
      intro c₁ h
      rw [← h]
      exact ih.mono hrest
    rw [visit]
    have hcomes := c.comes_comeTo id key predictor
    generalize c.comeTo id key predictor = come at hcomes ⊢
    cases hcomes with
    | missing => exact goesOn c rfl
    | @called model metric c₁ _ _ asked calls =>
      have hspawn := overlooks_inventory.spawnPrediction c id key predictor metric.target
      rw [asked] at hspawn
      have hbegin := (overlooks_inventory.beginTraining c₁ predictor).trans hspawn
      cases calls with
      | spared => exact goesOn c₁ hspawn
      | refused _ begins =>
        rw [begins] at hbegin
        exact goesOn _ hbegin
      | @trained c₂ _ begins =>
        rw [begins] at hbegin
        rw [← hbegin]
        refine (c₂.records_recordTraining key predictor).trans (ih.mono hrest) ?_
        exact List.cons_subset_cons _ (List.nil_subset _)
      | @sending d c₂ _ begins =>
        rw [begins] at hbegin
        have hsuspend := overlooks_inventory.suspendVisit c₂ id key predictor d rest
        exact .of_eq (hsuspend.trans hbegin) _

theorem records_resumeVisit (id : Nat) (e : Evaluation) (key : String) (predictor : Nat)
    (d : Dispatch) (rest : List (String × Nat)) (result : Except PredictError Unit) :
    c.inventory.Records (c.resumeVisit id e key predictor d rest result).inventory
      (key :: rest.map Prod.fst) := by
  have hrest : rest.map Prod.fst ⊆ key :: rest.map Prod.fst := List.subset_cons_self _ _
  rw [resumeVisit, resumed.eq_def]
  have hend : ((c.setEvaluation id { e with phase := .joining }).endDispatch predictor d true
      result).inventory = c.inventory := overlooks_inventory.endDispatch _ predictor d true result
  generalize (c.setEvaluation id { e with phase := .joining }).endDispatch predictor d true
    result = c₁ at hend ⊢
  rw [← hend]
  cases result with
  | ok u =>
    refine (c₁.records_recordTraining key predictor).trans ((records_visit id rest).mono hrest) ?_
    exact List.cons_subset_cons _ (List.nil_subset _)
  | error error => exact (records_visit (c := c₁.countFault error) id rest).mono hrest

theorem records_beginEvaluation (c : Controller) (owner : Option Nat) :
    c.inventory.Records (c.beginEvaluation owner).inventory c.store.predictors.keys :=
  records_visit (c := c.begun owner) c.nextEvaluation c.store.predictors.toList

end Controller

/-- The predictors whose visit is not over. -/
def Evaluation.visiting (e : Evaluation) : List String :=
  match e.phase with
  | .dispatching key _ _ rest => key :: rest.map Prod.fst
  | _ => []

/-- The same predictors with their numbers. -/
def Evaluation.ahead (e : Evaluation) : List (String × Nat) :=
  match e.phase with
  | .dispatching key predictor _ rest => (key, predictor) :: rest
  | _ => []

theorem Evaluation.visiting_eq (e : Evaluation) : e.visiting = e.ahead.map Prod.fst := by
  rw [visiting, ahead]
  split <;> rfl

namespace Controller

variable {c : Controller}

/-! ## Events -/

/-- A predictor that an event may come to: a registered one, or one that the visit of a round
has not come to so far. -/
def CanVisit (c : Controller) (key : String) : Prop :=
  c.store.predictors.contains key = true ∨
    ∃ id e, c.evaluations.get? id = some e ∧ key ∈ e.visiting

/-- An event keeps trainings in mind of predictors that it may come to, and nothing else
changes in store. -/
def Keeps (c c' : Controller) : Prop :=
  ∃ keys, c.inventory.Records c'.inventory keys ∧ ∀ key ∈ keys, c.CanVisit key

theorem Keeps.of_eq {c' : Controller} (h : c'.inventory = c.inventory) : c.Keeps c' :=
  ⟨[], .of_eq h _, fun _ hkey => by cases hkey⟩

theorem keeps_atEvaluationLoop {id : Nat} {f : EvaluationLoop → Controller}
    (h : ∀ l, c.Keeps (f l)) : c.Keeps (c.atEvaluationLoop id f) := by
  rw [atEvaluationLoop]
  split
  · exact h _
  · exact .of_eq rfl

theorem keeps_atEvaluation {id : Nat} {f : Evaluation → Controller}
    (h : ∀ e, c.evaluations.get? id = some e → c.Keeps (f e)) :
    c.Keeps (c.atEvaluation id f) := by
  rw [atEvaluation]
  split
  · next found => exact h _ found
  · exact .of_eq rfl

theorem keeps_beginEvaluation (c : Controller) (owner : Option Nat) :
    c.Keeps (c.beginEvaluation owner) :=
  ⟨_, c.records_beginEvaluation owner, fun key hkey => .inl ((KeyMap.mem_keys_iff _ key).1 hkey)⟩

/-- What is in store stays but for visits. -/
theorem inventory_handle (x : Event) (idle : x.visits = false) :
    (c.handle x).inventory = c.inventory := by
  cases hx : x.collects with
  | false => exact overlooks_inventory.handle_of_not_visits c x hx idle
  | true =>
    cases x with
    | collectionStarts id => exact view_atCollection fun l => by simp
    | collectionDue id => exact view_atCollection fun l => by simp
    | collectionSignalled id =>
      refine view_atCollection fun l => ?_
      split <;> simp
    | queryEnds id answer => exact view_atCollection fun l => by simp
    | _ => cases hx

/-- What every event keeps. -/
theorem keeps_handle (c : Controller) (x : Event) : c.Keeps (c.handle x) := by
  cases x with
  | evaluationLoopDue id =>
    refine keeps_atEvaluationLoop fun l => ?_
    split
    · exact keeps_beginEvaluation (c.ticked id l) (some id)
    · exact .of_eq rfl
  | dispatchEnds id result =>
    refine keeps_atEvaluation fun e found => ?_
    split
    · next key predictor d rest dispatching =>
      refine ⟨_, records_resumeVisit id e key predictor d rest result, fun k hk => ?_⟩
      refine .inr ⟨id, e, found, ?_⟩
      rw [Evaluation.visiting, dispatching]
      exact hk
    · exact .of_eq rfl
  | _ => exact .of_eq (inventory_handle _ rfl)

end Controller

end PredictiveScaling
