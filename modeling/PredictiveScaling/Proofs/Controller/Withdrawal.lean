import PredictiveScaling.Proofs.Controller.Records
import PredictiveScaling.Proofs.Remote.Withdrawal

/-!
# Calls for a training that fail

A call for a training of a served model is refused, or its request goes out later or not at all. It
is refused, among other things, if the system does not let anybody listen for the report, which may
be after the endpoint was claimed. Whichever way a call fails, and whatever else goes on before it
does, the predictor is left as it was, nobody holds the endpoint for the report because of the call,
and nothing is recorded. So the next call is as good as the first one
(`Controller.failed_training_rolls_back`).
-/
namespace PredictiveScaling.Controller

open RemotePredictor (Reachable)

/-! ## Calls -/

/-- While a request is on its way nothing happens to its predictor, nor to the listener for the
report. -/
structure Quiet (id : Nat) (d : Dispatch) (c c' : Controller) : Prop where
  predictor : c'.predictors.get? id = c.predictors.get? id
  listener : c'.sockets.listeners.get? d.listener = c.sockets.listeners.get? d.listener

/-- A call for a training fails. The controllers are the one before the call, the one right before
its end and the one after it. -/
inductive TrainingFails (c : Controller) (id : Nat) (cause : PredictError) :
    Controller → Controller → Prop where
  | refused {c' : Controller} (begins : c.beginTraining id = (.error cause, c')) :
      TrainingFails c id cause c c'
  /-- The model cannot be reached, the request cannot be written, or not in time. -/
  | unsent {d : Dispatch} {c₁ c₂ : Controller} (watched : Bool)
      (begins : c.beginTraining id = (.ok (some d), c₁)) (quiet : Quiet id d c₁ c₂) :
      TrainingFails c id cause c₂ (c₂.endDispatch id d watched (.error cause))

/-- What a failed call leaves behind: a predictor of which only the number of the next round may
have changed, and all else as it was. -/
structure RolledBack (c c₁ c' : Controller) (id : Nat) (name : String) (collector : Nat)
    (p p' : RemotePredictor) : Prop where
  found : c'.predictors.get? id = some ⟨name, collector, .remote p'⟩
  same : p' = { p with nextRound := p'.nextRound }
  others : ∀ i ≠ id, c'.predictors.get? i = c₁.predictors.get? i
  /-- Whoever held the endpoint for the report before the call holds it now, and nobody else. -/
  holder : c'.sockets.holder? p.completion = c.sockets.holder? p.completion
  /-- An endpoint that was free is free again, unless something has come to stand there that cannot
  be removed. -/
  free : c.sockets.Free p.completion → c₁.sockets.Clear p.completion →
    c'.sockets.Free p.completion
  /-- Other endpoints and the listeners on them are left alone. -/
  concerns : c₁.sockets.Concerns c'.sockets c.sockets.listeners.size p.completion
  /-- While a round is in flight or another predictor holds the endpoint, it is left alone, too. -/
  undisturbed : p.readiness.phase = .training ∨ c.sockets.holder? p.completion ≠ none →
    c'.sockets = c₁.sockets
  awaited : c'.awaited = c₁.awaited
  collectors : c'.collectors = c₁.collectors
  store : c'.store = c₁.store

/-- Under these conditions a training begins. -/
structure Working (c : Controller) (collector : Nat) (p : RemotePredictor) : Prop where
  resting : p.readiness.phase ≠ .training
  enough : p.params.trainSize.toNat ≤ (c.buffer collector).size
  free : c.sockets.Free p.completion
  willing : c.sockets.Willing

/-- A round of a predictor is in flight, and its report is awaited. -/
structure Underway (c : Controller) (id : Nat) (p : RemotePredictor) (a : AwaitedRound) :
    Prop where
  found : ∃ name collector, c.predictors.get? id = some ⟨name, collector, .remote p⟩
  training : p.readiness.phase = .training
  inFlight : ⟨a.round, .awaiting⟩ ∈ p.rounds
  awaited : a ∈ c.awaited

variable {c c' c₁ : Controller} {id : Nat} {name : String} {collector : Nat}
  {p q : RemotePredictor} {key : String} {params : RemoteParams} {d : Dispatch}
  {cause : PredictError}

/-! ## The two halves of a call -/

theorem beginTraining_eq (served : c.predictors.get? id = some ⟨name, collector, .remote p⟩) :
    c.beginTraining id =
      let begun := p.beginDispatch (c.buffer collector) c.sockets
      (begun.1.map some, c.putRemote id begun.2.1 begun.2.2) := by
  rw [beginTraining, served]

/-- A call that gets as far as to wait for its request has somebody listen for the report. -/
theorem beginTraining_ok (served : c.predictors.get? id = some ⟨name, collector, .remote p⟩)
    (begins : c.beginTraining id = (.ok (some d), c₁)) :
    p.readiness.phase ≠ .training ∧ d.round = p.nextRound ∧
      c.sockets.Listens c₁.sockets d.listener p.completion ∧
      c₁ = c.putRemote id p.begun c₁.sockets := by
  have hbegins := p.begins_beginDispatch (c.buffer collector) c.sockets
  rw [beginTraining_eq served] at begins
  generalize p.beginDispatch (c.buffer collector) c.sockets = begun at begins hbegins
  cases hbegins with
  | tooFew => cases begins
  | busy => cases begins
  | unbound => cases begins
  | begun resting listens =>
    cases begins
    exact ⟨resting, rfl, listens, rfl⟩

theorem endDispatch_error (served : c.predictors.get? id = some ⟨name, collector, .remote p⟩)
    (d : Dispatch) (watched : Bool) (cause : PredictError) :
    c.endDispatch id d watched (.error cause) =
      c.putRemote id (p.rollBack d.round) (c.sockets.release d.listener) := by
  rw [endDispatch, served]
  rfl

theorem endDispatch_ok (served : c.predictors.get? id = some ⟨name, collector, .remote p⟩)
    (d : Dispatch) (watched : Bool) : c.endDispatch id d watched (.ok ()) =
      (c.putRemote id (p.dispatched d.round) c.sockets).awaitRound
        ⟨id, d.round, d.listener, watched⟩ := by
  rw [endDispatch, served]
  rfl

theorem get?_putRemote (served : c.predictors.get? id = some ⟨name, collector, .remote p⟩)
    (q : RemotePredictor) (s : Sockets) :
    (c.putRemote id q s).predictors.get? id = some ⟨name, collector, .remote q⟩ := by
  rw [putRemote, Arena.get?_modify_self, served, Option.map_some]

/-- A predictor that is put back with another number for the next round. -/
theorem RolledBack.of_putRemote {s : Sockets}
    (served : c₁.predictors.get? id = some ⟨name, collector, .remote q⟩) (n : Nat)
    (holder : s.holder? p.completion = c.sockets.holder? p.completion)
    (free : c.sockets.Free p.completion → c₁.sockets.Clear p.completion → s.Free p.completion)
    (concerns : c₁.sockets.Concerns s c.sockets.listeners.size p.completion)
    (undisturbed : p.readiness.phase = .training ∨ c.sockets.holder? p.completion ≠ none →
      s = c₁.sockets) :
    c.RolledBack c₁ (c₁.putRemote id { p with nextRound := n } s) id name collector p
      { p with nextRound := n } :=
  { found := get?_putRemote served _ _
    same := rfl
    others := fun _ hi => Arena.get?_modify_of_ne _ hi.symm _
    holder, free, concerns, undisturbed
    awaited := rfl
    collectors := rfl
    store := rfl }

/-- Whichever way a call fails, what it has begun is rolled back. -/
theorem TrainingFails.rolledBack (h : c.TrainingFails id cause c₁ c')
    (reachable : p.Reachable key params)
    (served : c.predictors.get? id = some ⟨name, collector, .remote p⟩) :
    ∃ p', c.RolledBack c₁ c' id name collector p p' := by
  cases h with
  | refused begins =>
    have hbegins := p.begins_beginDispatch (c.buffer collector) c.sockets
    rw [beginTraining_eq served] at begins
    generalize p.beginDispatch (c.buffer collector) c.sockets = begun at begins hbegins
    cases hbegins with
    | tooFew few =>
      cases begins
      exact ⟨p, .of_putRemote served p.nextRound rfl (fun free _ => free) (.refl _ _ _)
        fun _ => rfl⟩
    | busy training =>
      cases begins
      exact ⟨p, .of_putRemote served p.nextRound rfl (fun free _ => free) (.refl _ _ _)
        fun _ => rfl⟩
    | unbound resting fails =>
      cases begins
      rw [reachable.rollBack_eq resting]
      refine ⟨_, .of_putRemote served _ fails.holder?
        (fun free _ => ⟨fails.holder?.trans free.1, fails.clear free.2⟩) fails.concerns ?_⟩
      rintro (training | held)
      · exact absurd training resting
      · exact fails.held held
    | begun => cases begins
  | @unsent d c₂ _ watched begins quiet =>
    obtain ⟨resting, hround, listens, begun⟩ := beginTraining_ok served begins
    have served₁ : c₁.predictors.get? id = some ⟨name, collector, .remote p.begun⟩ := by
      rw [quiet.predictor, begun]
      exact get?_putRemote served _ _
    obtain ⟨concerns, holder, free⟩ := Sockets.release_of_get?
      (quiet.listener.trans listens.get?) (by decide)
    rw [endDispatch_error served₁, hround, reachable.rollBack_eq resting]
    refine ⟨_, .of_putRemote served₁ _ ?_ (fun _ => free) ?_ ?_⟩
    · rw [holder, listens.free.1]
    · rw [← listens.fresh]
      exact concerns
    · rintro (training | held)
      · exact absurd training resting
      · exact absurd listens.free.1 held

/-- Under working conditions a call gets out, and the round is underway. -/
theorem Working.exists_training (working : c.Working collector p)
    (served : c.predictors.get? id = some ⟨name, collector, .remote p⟩) :
    ∃ d c₁, c.beginTraining id = (.ok (some d), c₁) ∧ ∀ c₂ watched, Quiet id d c₁ c₂ →
      (c₂.endDispatch id d watched (.ok ())).Underway id (p.begun.dispatched d.round)
        ⟨id, d.round, d.listener, watched⟩ := by
  obtain ⟨d, s, hbegin, hround⟩ :=
    RemotePredictor.exists_beginDispatch working.enough working.resting working.free
      working.willing
  refine ⟨d, c.putRemote id p.begun s, ?_, fun c₂ watched quiet => ?_⟩
  · rw [beginTraining_eq served, hbegin]
    rfl
  · have served₂ : c₂.predictors.get? id = some ⟨name, collector, .remote p.begun⟩ :=
      quiet.predictor.trans (get?_putRemote served _ _)
    rw [endDispatch_ok served₂]
    refine ⟨⟨name, collector, get?_putRemote served₂ _ c₂.sockets⟩, rfl, ?_, ?_⟩
    · refine List.mem_map.2 ⟨⟨p.nextRound, .dispatching⟩, ?_, ?_⟩
      · exact List.mem_append_right _ List.mem_cons_self
      · rw [hround, if_pos rfl]
    · exact List.mem_append_right _ List.mem_cons_self

/-! ## Records -/

theorem beginTraining_ne_done (served : c.predictors.get? id = some ⟨name, collector, .remote p⟩) :
    c.beginTraining id ≠ (.ok none, c') := by
  rw [beginTraining_eq served]
  rcases p.beginDispatch (c.buffer collector) c.sockets with ⟨error | d, _⟩ <;> nofun

/-- A visit records no training of a served model before its request has gone out. -/
theorem find?_trainings_visit_served
    (served : c.predictors.get? id = some ⟨name, collector, .remote p⟩) (ev : Nat)
    {rest : List (String × Nat)} (once : key ∉ rest.map Prod.fst) :
    (c.visit ev ((key, id) :: rest)).store.trainings.find? key = c.store.trainings.find? key := by
  rw [store_visit]
  refine Store.find?_trainings_recordAll_of_not_mem ?_
  rw [trains, visited]
  have hcomes := c.comes_comeTo ev key id
  generalize c.comeTo ev key id = come at hcomes ⊢
  cases hcomes with
  | missing => exact notMem_trains once c ev
  | @called model metric c₁ _ _ asked calls =>
    have hspawn : (c.spawnPrediction ev key id metric.target).predictors = c.predictors := by
      rw [spawnPrediction]
      split <;> rfl
    rw [asked] at hspawn
    cases calls with
    | spared => exact notMem_trains once c₁ ev
    | refused => exact notMem_trains once _ ev
    | trained _ begins =>
      -- Only a model that is computed here is trained at once.
      exact absurd begins (beginTraining_ne_done ((congrArg (Arena.get? · id) hspawn).trans served))
    | sending => exact List.not_mem_nil

/-- When the wait for a request is over, its training is recorded if it has gone out. -/
theorem find?_trainings_resumeVisit (c : Controller) (ev : Nat) (e : Evaluation) (id : Nat)
    (d : Dispatch) {rest : List (String × Nat)} (once : key ∉ rest.map Prod.fst)
    (result : Except PredictError Unit) :
    (c.resumeVisit ev e key id d rest result).store.trainings.find? key =
      match result with
      | .ok () => some ⟨c.now.steady, id⟩
      | .error _ => c.store.trainings.find? key := by
  rw [store_resumeVisit]
  cases result with
  | ok u =>
    refine (Store.find?_trainings_recordAll_of_not_mem (notMem_trains once _ ev)).trans ?_
    exact KeyMap.find?_insert_self _ _ _
  | error cause => exact Store.find?_trainings_recordAll_of_not_mem (notMem_trains once _ ev)

/-! ## Failure and retry -/

/-- Whatever a predictor has come to, and in whatever way a call for its training fails: what was
begun is rolled back, and nothing is recorded. Whatever happens to the predictor after that, as soon
as no training goes on, there are samples enough, the endpoint for the report is free and the system
lets its listeners listen, a call gets out, its round is underway, and it is recorded. -/
theorem failed_training_rolls_back (reachable : p.Reachable key params)
    (served : c.predictors.get? id = some ⟨name, collector, .remote p⟩) :
    (∀ cause c₁ c', c.TrainingFails id cause c₁ c' →
      ∃ p', c.RolledBack c₁ c' id name collector p p' ∧
        ∀ (xs : List RemoteEvent) (c₂ : Controller),
          let q := xs.foldl RemotePredictor.undergo p'
          c₂.predictors.get? id = some ⟨name, collector, .remote q⟩ → c₂.Working collector q →
            ∃ d c₃, c₂.beginTraining id = (.ok (some d), c₃) ∧ ∀ c₄ watched, Quiet id d c₃ c₄ →
              (c₄.endDispatch id d watched (.ok ())).Underway id (q.begun.dispatched d.round)
                ⟨id, d.round, d.listener, watched⟩) ∧
    ∀ key ev (rest : List (String × Nat)), key ∉ rest.map Prod.fst →
      (c.visit ev ((key, id) :: rest)).store.trainings.find? key = c.store.trainings.find? key ∧
      ∀ (c₁ : Controller) e d result,
        (c₁.resumeVisit ev e key id d rest result).store.trainings.find? key =
          match result with
          | .ok () => some ⟨c₁.now.steady, id⟩
          | .error _ => c₁.store.trainings.find? key := by
  constructor
  · intro cause c₁ c' fails
    obtain ⟨p', back⟩ := fails.rolledBack reachable served
    refine ⟨p', back, ?_⟩
    intro xs c₂ q found working
    exact working.exists_training found
  · intro key ev rest once
    refine ⟨find?_trainings_visit_served served ev once, ?_⟩
    intro c₁ e d result
    exact c₁.find?_trainings_resumeVisit ev e id d once result

/-- A metric with a served model, and the one sample that its training takes. -/
def served : Controller :=
  ((new "controller" ⟨"default", "web", "deployment"⟩ default .default).turns (sending.take 4)).1

/-- After a request that was not sent in time the model is untrained, as before, and the next
request goes out at once. -/
theorem failed_training_rolls_back_served :
    ∃ d c₁, served.beginTraining 0 = (.ok (some d), c₁) ∧
      ∃ p', (c₁.endDispatch 0 d true (.error .timeout)).predictors.get? 0 =
          some ⟨"cpu$$q$remote", 0, .remote p'⟩ ∧
        p'.readiness = .initial ∧ p'.rounds = [] ∧
        ∃ d' c₃, (c₁.endDispatch 0 d true (.error .timeout)).beginTraining 0 = (.ok (some d'), c₃) ∧
          (c₃.endDispatch 0 d' true (.ok ())).Underway 0 (p'.begun.dispatched d'.round)
            ⟨0, d'.round, d'.listener, true⟩ := by
  let p := RemotePredictor.untrained "cpu$$q$remote" RemotePredictor.oneSampleParams
  have found : served.predictors.get? 0 = some ⟨"cpu$$q$remote", 0, .remote p⟩ := by rfl
  have reachable : p.Reachable "cpu$$q$remote" RemotePredictor.oneSampleParams := .made (by rfl)
  have free : served.sockets.Free p.completion := Sockets.free_empty _
  have working : served.Working 0 p := ⟨by decide, by decide +kernel, free, by rfl⟩
  have listens : (served.beginTraining 0).2.sockets.listener? p.completion = some 0 := by
    decide +kernel
  obtain ⟨d, c₁, begins, -⟩ := working.exists_training found
  obtain ⟨-, -, hlistens, hbegun⟩ := beginTraining_ok found begins
  have samples : c₁.collectors = served.collectors := by rw [hbegun]; rfl
  have allowed : ∀ n, c₁.sockets.refusal? n = none := fun n =>
    congrFun hlistens.concerns.refusal? n
  rw [begins] at listens
  obtain ⟨rolls, -⟩ := failed_training_rolls_back reachable found
  obtain ⟨p', back, retry⟩ := rolls .timeout c₁ _ (.unsent true begins ⟨rfl, rfl⟩)
  have same := back.same
  have readiness : p'.readiness = .initial := by rw [same]; rfl
  have again : (c₁.endDispatch 0 d true (.error .timeout)).Working 0 p' := by
    refine ⟨?_, ?_, ?_, ?_⟩
    · rw [readiness]
      decide
    · rw [buffer, back.collectors, samples, same]
      exact working.enough
    · rw [same]
      exact back.free free (.of_listener? listens)
    · rw [Sockets.Willing, back.concerns.refusal?]
      exact allowed _
  obtain ⟨d', c₃, begins', underway⟩ := retry [] _ back.found again
  exact ⟨d, c₁, begins, p', back.found, readiness, by rw [same]; rfl, d', c₃, begins',
    underway c₃ true ⟨rfl, rfl⟩⟩

end PredictiveScaling.Controller
