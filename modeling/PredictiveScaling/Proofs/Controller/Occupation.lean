import PredictiveScaling.Proofs.Controller.Agenda
import PredictiveScaling.Proofs.Controller.Identity
import PredictiveScaling.Proofs.Controller.Withdrawal
import Mathlib.Data.List.Nodup

/-!
# One training at a time

While a round waits for the request of a training to go out, and then while the report is awaited,
the model is in training, and a training that is called for meanwhile is refused. So however many
rounds there are and whatever happens to them, no two of them send to one predictor, and none sends
to a predictor whose report is still awaited (`Controller.exclusive_turns`).
-/
namespace PredictiveScaling

/-- Who is occupied with a training. -/
@[ext]
structure Traffic where
  /-- The predictor whose request a round is sending. -/
  sending : Nat → Option Nat
  /-- The predictors whose reports are awaited. -/
  awaited : List Nat
  /-- Whether the model of a predictor is in training. -/
  training : Nat → Bool

namespace Traffic

variable {t t' : Traffic} {id n : Nat}

/-- A predictor is sent to by one round, or its report is awaited once, and is in training then. -/
structure Exclusive (t : Traffic) : Prop where
  training_of_sending : ∀ id n, t.sending id = some n → t.training n = true
  training_of_awaited : ∀ n ∈ t.awaited, t.training n = true
  eq_of_sending : ∀ i j n, t.sending i = some n → t.sending j = some n → i = j
  not_awaited : ∀ id n, t.sending id = some n → n ∉ t.awaited
  nodup : t.awaited.Nodup

/-- What can become of a training. -/
inductive Step (t : Traffic) : Traffic → Prop where
  /-- A round begins to send. -/
  | begins (id : Nat) {n : Nat} (resting : t.training n = false) :
      Step t { t with
        sending := Function.update t.sending id (some n)
        training := Function.update t.training n true }
  /-- A round is given up, and so is the request that it was sending. -/
  | leaves (id : Nat) : Step t { t with sending := Function.update t.sending id none }
  | goesOut {id n : Nat} (sending : t.sending id = some n) :
      Step t { t with
        sending := Function.update t.sending id none
        awaited := t.awaited ++ [n] }
  | fails {id n : Nat} (sending : t.sending id = some n) :
      Step t { t with
        sending := Function.update t.sending id none
        training := Function.update t.training n false }
  /-- A report comes, or it will not come. -/
  | reports {n : Nat} (mem : n ∈ t.awaited) :
      Step t { t with
        awaited := t.awaited.filter (· ≠ n)
        training := Function.update t.training n false }

/-- Nobody is occupied with the predictor. -/
structure Idle (t : Traffic) (n : Nat) : Prop where
  unsent : ∀ id, t.sending id ≠ some n
  unawaited : n ∉ t.awaited

namespace Exclusive

variable (h : t.Exclusive)
include h

theorem idle (resting : t.training n = false) : t.Idle n where
  unsent id sending := Bool.false_ne_true (resting.symm.trans (h.training_of_sending id n sending))
  unawaited mem := Bool.false_ne_true (resting.symm.trans (h.training_of_awaited n mem))

theorem train (idle : t.Idle n) (b : Bool) :
    ({ t with training := Function.update t.training n b } : Traffic).Exclusive where
  training_of_sending j m sending := by
    have other : m ≠ n := fun same => idle.unsent j (same ▸ sending)
    dsimp only
    rw [Function.update_of_ne other]
    exact h.training_of_sending j m sending
  training_of_awaited m mem := by
    have other : m ≠ n := fun same => idle.unawaited (same ▸ mem)
    dsimp only
    rw [Function.update_of_ne other]
    exact h.training_of_awaited m mem
  eq_of_sending := h.eq_of_sending
  not_awaited := h.not_awaited
  nodup := h.nodup

theorem send (id : Nat) (idle : t.Idle n) (training : t.training n = true) :
    ({ t with sending := Function.update t.sending id (some n) } : Traffic).Exclusive := by
  have sends : ∀ {j m}, Function.update t.sending id (some n) j = some m →
      j = id ∧ m = n ∨ t.sending j = some m := by
    intro j m sending
    rw [Function.update_apply] at sending
    split at sending
    · next same => exact .inl ⟨same, (Option.some.inj sending).symm⟩
    · exact .inr sending
  refine ⟨fun j m sending => ?_, h.training_of_awaited, fun i j m hi hj => ?_,
    fun j m sending => ?_, h.nodup⟩
  · rcases sends sending with ⟨-, rfl⟩ | sending
    · exact training
    · exact h.training_of_sending j m sending
  · rcases sends hi with ⟨same, rfl⟩ | before
    · rcases sends hj with ⟨same', -⟩ | before
      · exact same.trans same'.symm
      · exact absurd before (idle.unsent j)
    · rcases sends hj with ⟨-, rfl⟩ | before'
      · exact absurd before (idle.unsent i)
      · exact h.eq_of_sending i j m before before'
  · rcases sends sending with ⟨-, rfl⟩ | sending
    · exact idle.unawaited
    · exact h.not_awaited j m sending

theorem stop (id : Nat) :
    ({ t with sending := Function.update t.sending id none } : Traffic).Exclusive := by
  have sends : ∀ {j m}, Function.update t.sending id none j = some m → t.sending j = some m := by
    intro j m sending
    rw [Function.update_apply] at sending
    split at sending
    · cases sending
    · exact sending
  exact ⟨fun j m sending => h.training_of_sending j m (sends sending), h.training_of_awaited,
    fun i j m hi hj => h.eq_of_sending i j m (sends hi) (sends hj),
    fun j m sending => h.not_awaited j m (sends sending), h.nodup⟩

/-- Once its round sends no more, a predictor is idle. -/
theorem idle_stop (sending : t.sending id = some n) :
    ({ t with sending := Function.update t.sending id none } : Traffic).Idle n where
  unsent j sending' := by
    dsimp only at sending'
    rw [Function.update_apply] at sending'
    split at sending'
    · cases sending'
    · next other => exact other (h.eq_of_sending j id n sending' sending)
  unawaited := h.not_awaited id n sending

theorem await (idle : t.Idle n) (training : t.training n = true) :
    ({ t with awaited := t.awaited ++ [n] } : Traffic).Exclusive where
  training_of_sending := h.training_of_sending
  training_of_awaited m mem := by
    rcases List.mem_append.1 mem with mem | mem
    · exact h.training_of_awaited m mem
    · exact List.mem_singleton.1 mem ▸ training
  eq_of_sending := h.eq_of_sending
  not_awaited j m sending mem := by
    rcases List.mem_append.1 mem with mem | mem
    · exact h.not_awaited j m sending mem
    · exact idle.unsent j (List.mem_singleton.1 mem ▸ sending)
  nodup := List.Nodup.append h.nodup (List.nodup_singleton n)
    (List.disjoint_singleton.2 idle.unawaited)

theorem arrive (n : Nat) :
    ({ t with awaited := t.awaited.filter (· ≠ n) } : Traffic).Exclusive where
  training_of_sending := h.training_of_sending
  training_of_awaited m mem := h.training_of_awaited m (List.mem_of_mem_filter mem)
  eq_of_sending := h.eq_of_sending
  not_awaited j m sending mem := h.not_awaited j m sending (List.mem_of_mem_filter mem)
  nodup := h.nodup.filter _

/-- Once its report is not awaited any more, a predictor is idle. -/
theorem idle_arrive (mem : n ∈ t.awaited) :
    ({ t with awaited := t.awaited.filter (· ≠ n) } : Traffic).Idle n where
  unsent id sending := h.not_awaited id n sending mem
  unawaited mem := by
    have other := (List.mem_filter.1 mem).2
    simp at other

theorem step (step : t.Step t') : t'.Exclusive := by
  cases step with
  | begins id resting =>
    have idle := h.idle resting
    exact (h.train idle true).send id ⟨idle.unsent, idle.unawaited⟩ (Function.update_self ..)
  | leaves id => exact h.stop id
  | goesOut sending =>
    exact (h.stop _).await (h.idle_stop sending) (h.training_of_sending _ _ sending)
  | fails sending => exact (h.stop _).train (h.idle_stop sending) false
  | reports mem => exact (h.arrive _).train (h.idle_arrive mem) false

end Exclusive

end Traffic

/-! ## The traffic of a controller -/

def Predictor.inTraining (p : Predictor) : Bool :=
  match p.model with
  | .seasonal _ => false
  | .remote r => r.readiness.phase = .training

namespace Controller

variable {c c' : Controller} {id i n : Nat} {e e' : Evaluation}

def traffic (c : Controller) : Traffic where
  sending id := ((c.agenda id).join.bind List.head?).map Prod.snd
  awaited := c.awaited.map AwaitedRound.predictor
  training n := ((c.predictors.get? n).map Predictor.inTraining).getD false

theorem sending_traffic (c : Controller) (id : Nat) :
    c.traffic.sending id = ((c.agenda id).join.bind List.head?).map Prod.snd := rfl

theorem training_traffic (c : Controller) (n : Nat) :
    c.traffic.training n = ((c.predictors.get? n).map Predictor.inTraining).getD false := rfl

/-- What trainings take place in. -/
def workings (c : Controller) : List Nat × (Nat → Bool) := (c.traffic.awaited, c.traffic.training)

theorem overlooks_workings : OverlooksRounds workings where
  call _ _ _ := rfl
  evaluations _ _ := rfl
  evaluationLoops _ _ := rfl
  scaler _ _ := rfl
  reports _ _ _ _ := rfl
  telemetry _ _ := rfl

theorem overlooksCollecting_traffic : OverlooksCollecting traffic where
  wake _ _ _ := rfl
  query _ _ _ _ := rfl
  collectionLoops _ _ := rfl
  collectors _ _ := rfl
  health _ _ := rfl
  telemetry _ _ := rfl

/-- Rounds go on with what they have before them. -/
theorem traffic_eq (works : c'.workings = c.workings) (same : c'.agenda = c.agenda) :
    c'.traffic = c.traffic := by
  obtain ⟨hawaited, htraining⟩ := Prod.mk.inj works
  refine Traffic.ext ?_ hawaited htraining
  funext id
  rw [sending_traffic, sending_traffic, same]

/-- One round has something else before it. -/
theorem traffic_of_update {l : Option (Option (List (String × Nat)))}
    (works : c'.workings = c.workings)
    (agenda : c'.agenda = Function.update c.agenda id l) :
    c'.traffic =
      { c.traffic with
        sending :=
          Function.update c.traffic.sending id ((l.join.bind List.head?).map Prod.snd) } := by
  obtain ⟨hawaited, htraining⟩ := Prod.mk.inj works
  refine Traffic.ext ?_ hawaited htraining
  funext j
  rw [sending_traffic, agenda]
  dsimp only
  rw [Function.update_apply, Function.update_apply]
  split
  · rfl
  · rfl

/-- The model of a predictor changes. -/
theorem traffic_putRemote {name : String} {collector : Nat} {r : RemotePredictor}
    (served : c.predictors.get? n = some ⟨name, collector, .remote r⟩) (r' : RemotePredictor)
    (s : Sockets) : (c.putRemote n r' s).traffic = { c.traffic with
      training := Function.update c.traffic.training n (r'.readiness.phase = .training) } := by
  have htraining : (c.putRemote n r' s).traffic.training =
      Function.update c.traffic.training n (r'.readiness.phase = .training) := by
    funext m
    rw [training_traffic, putRemote, Function.update_apply]
    dsimp only
    rw [Arena.get?_modify]
    by_cases hm : n = m
    · subst hm
      rw [if_pos rfl, if_pos rfl, served]
      rfl
    · rw [if_neg hm, if_neg (Ne.symm hm)]
      rfl
  rw [← htraining]
  rfl

theorem training_of_served {name : String} {collector : Nat} {r : RemotePredictor}
    (served : c.predictors.get? n = some ⟨name, collector, .remote r⟩) :
    c.traffic.training n = decide (r.readiness.phase = .training) := by
  rw [training_traffic, served]
  rfl

/-- A model goes on being in training, or not being. -/
theorem traffic_putRemote_of_phase {name : String} {collector : Nat} {r : RemotePredictor}
    (served : c.predictors.get? n = some ⟨name, collector, .remote r⟩) (r' : RemotePredictor)
    (same : r'.readiness.phase = .training ↔ r.readiness.phase = .training) (s : Sockets) :
    (c.putRemote n r' s).traffic = c.traffic := by
  have hphase : decide (r'.readiness.phase = .training) = c.traffic.training n := by
    rw [training_of_served served]
    exact decide_eq_decide.2 same
  rw [traffic_putRemote served, hphase, Function.update_eq_self]

/-! ## Calls for trainings -/

/-- A call for a training is refused, or there is nothing to send, or the model is in training from
then on. -/
inductive Called (c : Controller) (n : Nat) :
    Except PredictError (Option Dispatch) × Controller → Prop where
  | refused {error : PredictError} {c' : Controller} (same : c'.traffic = c.traffic) :
      Called c n (.error error, c')
  | done (unserved : c.traffic.training n = false) : Called c n (.ok none, c)
  | sent {d : Dispatch} {c' : Controller} (resting : c.traffic.training n = false)
      (begun : c'.traffic =
        { c.traffic with training := Function.update c.traffic.training n true }) :
      Called c n (.ok (some d), c')

theorem called_beginTraining (c : Controller) (n : Nat) : c.Called n (c.beginTraining n) := by
  cases found : c.predictors.get? n with
  | none =>
    rw [beginTraining, found]
    exact .done (by rw [training_traffic, found]; rfl)
  | some p =>
    obtain ⟨name, collector, params | r⟩ := p
    · rw [beginTraining, found]
      exact .done (by rw [training_traffic, found]; rfl)
    · rw [beginTraining_eq found]
      have hbegins := r.begins_beginDispatch (c.buffer collector) c.sockets
      generalize r.beginDispatch (c.buffer collector) c.sockets = begun at hbegins ⊢
      cases hbegins with
      | tooFew few => exact .refused (traffic_putRemote_of_phase found r Iff.rfl _)
      | busy training => exact .refused (traffic_putRemote_of_phase found r Iff.rfl _)
      | unbound resting fails =>
        refine .refused (traffic_putRemote_of_phase found _ (iff_of_false ?_ resting) _)
        exact RemotePredictor.restingPhase_ne_training _
      | begun resting listens =>
        refine .sent ?_ (traffic_putRemote found _ _)
        rw [training_of_served found]
        exact decide_eq_false resting

/-! ## Rounds -/

theorem traffic_settle (found : c.evaluations.get? id = some e) :
    (c.settle id).traffic = c.traffic :=
  traffic_eq (overlooks_workings.settle c id) (agenda_settle found)

theorem exclusive_visit (h : c.traffic.Exclusive) (found : c.evaluations.get? id = some e)
    (l : List (String × Nat)) : (c.visit id l).traffic.Exclusive := by
  induction l generalizing c e with
  | nil => exact traffic_settle found ▸ h
  | cons x rest ih =>
    obtain ⟨key, predictor⟩ := x
    rw [visit]
    have hcomes := c.comes_comeTo id key predictor
    generalize c.comeTo id key predictor = come at hcomes ⊢
    cases hcomes with
    | missing => exact ih h found
    | @called model metric c₁ _ _ asked calls =>
      have hspawn := stage_spawnPrediction found key predictor metric.target
      have same : (c.spawnPrediction id key predictor metric.target).traffic = c.traffic :=
        traffic_eq (overlooks_workings.spawnPrediction c id key predictor metric.target)
          (agenda_of_put_of_eq found hspawn rfl)
      have found₁ := get?_of_stage_eq_put found hspawn
      rw [asked] at same found₁
      have h₁ : c₁.traffic.Exclusive := same ▸ h
      have hcalled := c₁.called_beginTraining predictor
      have heval : (c₁.beginTraining predictor).2.evaluations = c₁.evaluations :=
        congrArg Stage.evaluations (c₁.stage_beginTraining predictor)
      cases calls with
      | spared => exact ih h₁ found₁
      | @refused error c₂ _ begins =>
        rw [begins] at hcalled heval
        cases hcalled with
        | refused unchanged =>
          have found₂ := (congrArg (Arena.get? · id) heval).trans found₁
          exact ih (c := c₂.countFault error) (unchanged ▸ h₁) found₂
      | @trained c₂ _ begins =>
        rw [begins] at hcalled
        cases hcalled with
        | done unserved => exact ih (c := c₁.recordTraining key predictor) h₁ found₁
      | @sending d c₂ _ begins =>
        rw [begins] at hcalled heval
        cases hcalled with
        | sent resting begun =>
          have found₂ : c₂.evaluations.get? id = _ :=
            (congrArg (Arena.get? · id) heval).trans found₁
          have hsend : (c₂.suspendVisit id key predictor d rest).traffic =
              { c₂.traffic with
                sending := Function.update c₂.traffic.sending id (some predictor) } :=
            traffic_of_update (overlooks_workings.suspendVisit c₂ id key predictor d rest)
              (agenda_of_put found₂ (stage_suspendVisit found₂ key predictor d rest))
          dsimp only
          rw [hsend, begun]
          exact h₁.step (.begins id resting)

/-- Only a served model can be in training. -/
theorem exists_served (training : c.traffic.training n = true) :
    ∃ name collector r, c.predictors.get? n = some ⟨name, collector, .remote r⟩ := by
  rw [training_traffic] at training
  cases found : c.predictors.get? n with
  | none => simp [found] at training
  | some p =>
    obtain ⟨name, collector, params | r⟩ := p
    · simp [found, Predictor.inTraining] at training
    · exact ⟨name, collector, r, rfl⟩

theorem traffic_endDispatch_ok (training : c.traffic.training n = true) (d : Dispatch)
    (watched : Bool) : (c.endDispatch n d watched (.ok ())).traffic =
      { c.traffic with awaited := c.traffic.awaited ++ [n] } := by
  obtain ⟨name, collector, r, served⟩ := exists_served training
  rw [endDispatch_ok served,
    ← traffic_putRemote_of_phase served (r.dispatched d.round) Iff.rfl c.sockets]
  exact Traffic.ext rfl (List.map_append ..) rfl

theorem traffic_endDispatch_error (training : c.traffic.training n = true) (d : Dispatch)
    (watched : Bool) (cause : PredictError) :
    (c.endDispatch n d watched (.error cause)).traffic =
      { c.traffic with training := Function.update c.traffic.training n false } := by
  obtain ⟨name, collector, r, served⟩ := exists_served training
  have resting : decide ((r.rollBack d.round).readiness.phase = .training) = false :=
    decide_eq_false (RemotePredictor.restingPhase_ne_training _)
  rw [endDispatch_error served, traffic_putRemote served, resting]

theorem exclusive_resumed (h : c.traffic.Exclusive) (found : c.evaluations.get? id = some e)
    {key : String} {d : Dispatch} {rest : List (String × Nat)}
    (dispatching : e.phase = .dispatching key n d rest) (result : Except PredictError Unit) :
    (c.resumed id e key n d result).traffic.Exclusive := by
  have sending : c.traffic.sending id = some n := by
    rw [sending_traffic, agenda_of_get? found, Evaluation.agenda?, dispatching]
    rfl
  have training : (c.setEvaluation id { e with phase := .joining }).traffic.training n = true :=
    h.training_of_sending id n sending
  have stopped : (c.setEvaluation id { e with phase := .joining }).traffic =
      { c.traffic with sending := Function.update c.traffic.sending id none } :=
    traffic_of_update (l := some (some [])) rfl
      (agenda_of_put (c := c) found (c.stage_setEvaluation id _))
  cases result with
  | ok u =>
    change (endDispatch _ n d true (.ok u)).traffic.Exclusive
    rw [traffic_endDispatch_ok training, stopped]
    exact h.step (.goesOut sending)
  | error cause =>
    change (endDispatch _ n d true (.error cause)).traffic.Exclusive
    rw [traffic_endDispatch_error training, stopped]
    exact h.step (.fails sending)

theorem exclusive_resumeVisit (h : c.traffic.Exclusive) (found : c.evaluations.get? id = some e)
    {key : String} {d : Dispatch} {rest : List (String × Nat)}
    (dispatching : e.phase = .dispatching key n d rest) (result : Except PredictError Unit) :
    (c.resumeVisit id e key n d rest result).traffic.Exclusive :=
  exclusive_visit (exclusive_resumed h found dispatching result)
    (get?_of_stage_eq_put found (c.stage_resumed id e key n d result)) rest

theorem exclusive_beginEvaluation (h : c.traffic.Exclusive) (owner : Option Nat) :
    (c.beginEvaluation owner).traffic.Exclusive := by
  refine exclusive_visit (c := c.begun owner) ?_ (Arena.get?_push_self _ _) _
  have works : (c.begun owner).workings = c.workings := rfl
  have push : (c.begun owner).evaluations = c.evaluations.push _ := rfl
  rw [traffic_of_update works (agenda_of_push push)]
  exact h.step (.leaves c.nextEvaluation)

theorem workings_abandonDispatch (c : Controller) (n : Nat) (d : Dispatch) :
    (c.abandonDispatch n d).workings = c.workings := by
  have same : (c.abandonDispatch n d).traffic = c.traffic := by
    rw [abandonDispatch]
    split
    · next r served =>
      exact traffic_putRemote_of_phase served (r.dropRound d.round) Iff.rfl _
    · rfl
  rw [workings, workings, same]

theorem exclusive_abandonEvaluation (h : c.traffic.Exclusive) (id : Nat) :
    (c.abandonEvaluation id).traffic.Exclusive := by
  cases found : c.evaluations.get? id with
  | none => rwa [abandonEvaluation, found]
  | some e =>
    have works : (c.abandonEvaluation id).workings = c.workings := by
      rw [abandonEvaluation, found]
      dsimp only
      rw [overlooks_workings.setEvaluation]
      split
      · exact workings_abandonDispatch c _ _
      · rfl
    rw [traffic_of_update works (agenda_abandonEvaluation found)]
    exact h.step (.leaves id)

/-- No other report is awaited of the predictor. -/
theorem map_predictor_filter {l : List AwaitedRound}
    (once : (l.map AwaitedRound.predictor).Nodup) {a : AwaitedRound} (mem : a ∈ l) :
    (l.filter fun b => b ≠ a).map AwaitedRound.predictor =
      (l.map AwaitedRound.predictor).filter fun n => n ≠ a.predictor := by
  rw [List.filter_map]
  refine congrArg (List.map _) (List.filter_congr fun b hb => decide_eq_decide.2 ?_)
  exact not_congr ⟨congrArg _, fun same => List.inj_on_of_nodup_map once hb mem same⟩

theorem exclusive_endTraining (h : c.traffic.Exclusive) (round : Nat) (arrival : Arrival) :
    (c.endTraining n round arrival).traffic.Exclusive := by
  rw [endTraining]
  split
  · next a name collector r first served =>
    have mem : a ∈ c.awaited := List.mem_of_find?_eq_some first
    obtain ⟨own, -⟩ : a.predictor = n ∧ a.round = round := by
      simpa using List.find?_some first
    have resting : decide ((r.endRound round
        (.ofArrival r.key arrival)).readiness.phase = .training) = false := by
      refine decide_eq_false ?_
      rw [RemotePredictor.endRound, RemotePredictor.phase_conclude]
      exact RemotePredictor.restingPhase_ne_training _
    have hput := traffic_putRemote served (r.endRound round (.ofArrival r.key arrival))
      (c.sockets.release a.listener)
    rw [resting] at hput
    let c₁ := c.putRemote n (r.endRound round (.ofArrival r.key arrival))
      (c.sockets.release a.listener)
    have hend : ({ c₁ with awaited := c₁.awaited.filter fun b => b ≠ a } : Controller).traffic =
        { c.traffic with
          awaited := c.traffic.awaited.filter (· ≠ n)
          training := Function.update c.traffic.training n false } := by
      have htraining : c₁.traffic.training = _ := congrArg Traffic.training hput
      refine Traffic.ext rfl ?_ htraining
      exact own ▸ map_predictor_filter h.nodup mem
    have step := h.step (.reports (List.mem_map.2 ⟨a, mem, own⟩))
    rw [← hend] at step
    dsimp only
    split
    · exact step
    · exact step
  · exact h

/-! ## Turns -/

theorem phase_takeExchange (r : RemotePredictor) (request : PredictRequest)
    (answer : Except PredictError PredictReply) :
    (r.takeExchange request answer).2.readiness.phase = .training ↔
      r.readiness.phase = .training := by
  rw [RemotePredictor.takeExchange.eq_def]
  split
  · exact Iff.rfl
  · rw [RemotePredictor.takeReply]
    split
    · exact Iff.rfl
    · split
      · rw [ModelReadiness.invalidate]
        dsimp only
        split
        · next ready => simp [ready]
        · exact Iff.rfl
      · exact Iff.rfl

theorem workings_takeReply (c : Controller) (id i : Nat) (e : Evaluation) (p : Prediction)
    (request : PredictRequest) (reply : Except PredictError PredictReply) :
    (c.takeReply id i e p request reply).workings = c.workings := by
  rw [takeReply]
  split
  · next r served =>
    dsimp only
    rw [overlooks_workings.takeForecast, workings, workings,
      traffic_putRemote_of_phase served _ (phase_takeExchange r request reply)]
  · exact overlooks_workings.endPrediction c id i e p.key none

/-- Rounds that visit nothing leave the predictors to themselves. -/
theorem workings_handle {x : Event} (collects : x.collects = false)
    (rests : (Turn.event x).walks = false) (waits : ∀ n round arrival,
      x ≠ .trainingEnds n round arrival) : (c.handle x).workings = c.workings := by
  cases x with
  | collectionStarts id => cases collects
  | collectionDue id => cases collects
  | collectionSignalled id => cases collects
  | queryEnds id answer => cases collects
  | evaluationLoopStarts id =>
    refine view_atEvaluationLoop fun l => ?_
    split
    · exact overlooks_workings.startEvaluationLoop c id l
    · rfl
  | evaluationLoopDue id => cases rests
  | evaluationLoopSignalled id => cases rests
  | predictionStarts id i =>
    refine view_atPrediction fun e p => ?_
    split
    · exact overlooks_workings.startPrediction c id i e p
    · rfl
  | replyArrives id i reply =>
    refine view_atPrediction fun e p => ?_
    split
    · exact workings_takeReply c id i e p _ reply
    · rfl
  | predictionCount id i count =>
    refine view_atPrediction fun e p => ?_
    split
    · exact overlooks_workings.readPredictionCount c id i e p _ count
    · rfl
  | dispatchEnds id result => cases rests
  | goalCount id count =>
    refine view_atEvaluation fun e => ?_
    split
    · exact overlooks_workings.readGoalCount c id e _ count
    · rfl
  | goalSet id result =>
    refine view_atEvaluation fun e => ?_
    split
    · exact overlooks_workings.endGoalSet c id e _ _ result
    · rfl
  | trainingEnds n round arrival => exact absurd rfl (waits n round arrival)

theorem exclusive_handle (h : c.traffic.Exclusive) (x : Event) :
    (c.handle x).traffic.Exclusive := by
  cases collects : x.collects with
  | true => rwa [overlooksCollecting_traffic.handle c collects]
  | false =>
    cases x with
    | evaluationLoopDue id =>
      rw [handle, atEvaluationLoop]
      split
      · split
        · exact exclusive_beginEvaluation (c := c.setEvaluationLoop id _) h _
        · exact h
      · exact h
    | evaluationLoopSignalled id =>
      rw [handle, atEvaluationLoop]
      split
      · split
        · next l _ _ =>
          rw [endEvaluationLoop.eq_def]
          dsimp only
          split
          · exact exclusive_abandonEvaluation h _
          · exact h
        · exact h
      · exact h
    | dispatchEnds id result =>
      rw [handle, atEvaluation]
      split
      · next e found =>
        split
        · next key n d rest dispatching =>
          exact exclusive_resumeVisit h found dispatching result
        · exact h
      · exact h
    | trainingEnds n round arrival => exact exclusive_endTraining h round arrival
    | _ =>
      have works := workings_handle (c := c) collects rfl fun n round arrival same => by cases same
      rwa [traffic_eq works (agenda_handle _ rfl)]

/-- A predictor that has just been made is not in training. -/
theorem inTraining_of_ofSpec {key : String} {spec : ModelSpec} {collector : Nat} {p : Predictor}
    (made : Predictor.ofSpec key spec collector = .ok p) : p.inTraining = false := by
  rw [Predictor.ofSpec] at made
  split at made
  · next params _ =>
    cases hvalid : params.validate with
    | error fault => simp [hvalid, Except.map] at made
    | ok u =>
      simp only [hvalid, Except.map, Except.ok.injEq] at made
      rw [← made]
      rfl
  · next params _ =>
    cases hvalid : params.validate with
    | error fault => simp [RemotePredictor.new, hvalid, Except.map] at made
    | ok u =>
      simp only [RemotePredictor.new, hvalid, Except.map, Except.ok.injEq] at made
      rw [← made]
      rfl

theorem traffic_install (c : Controller) (metric : Metric) (specs : List ModelSpec)
    (config : CollectionConfig) : (c.install metric specs config).2.traffic = c.traffic := by
  refine overlooksCollecting_traffic.install (fun _ _ => rfl) (fun {_ _ _ made} hmade c => ?_) c
    metric specs config
  refine Traffic.ext rfl rfl (funext fun n => ?_)
  change (((c.predictors.append (made.map Prod.snd)).get? n).map _).getD false = _
  rw [training_traffic]
  by_cases hn : n < c.predictors.size
  · rw [Arena.get?_append_of_lt _ _ hn]
  · obtain ⟨i, rfl⟩ := Nat.exists_eq_add_of_le (Nat.le_of_not_lt hn)
    rw [Arena.get?_append_add, (Arena.get?_eq_none_iff _ _).2 (Nat.le_add_right _ i),
      List.getElem?_map]
    cases hi : made[i]? with
    | none => rfl
    | some x =>
      exact inTraining_of_ofSpec ((ofSpec_of_mem_made hmade).2 x (List.mem_of_getElem? hi))

theorem exclusive_takes (h : c.traffic.Exclusive) (x : Turn) : (c.takes x).traffic.Exclusive := by
  cases x with
  | install metric specs config => rwa [takes, traffic_install]
  | remove metricKey => rwa [takes, overlooksCollecting_traffic.remove fun _ _ => rfl]
  | stop metricKey => rwa [takes, overlooksCollecting_traffic.stop]
  | shutDown =>
    have works : c.shutDown.2.workings = c.workings := by
      refine (view_foldl overlooks_workings.signalEvaluationLoop _ _).trans ?_
      refine view_foldl (fun c id => ?_) _ _
      rw [workings, overlooksCollecting_traffic.signalCollection, workings]
    rwa [takes, traffic_eq works (agenda_takes (x := .shutDown) rfl)]
  | evaluate => exact exclusive_beginEvaluation h none
  | event x => exact exclusive_handle h x

theorem exclusive_new (instanceName : String) (workload : Workload) (scaler : ScalerConfig)
    (evaluation : EvaluationConfig) :
    (new instanceName workload scaler evaluation).traffic.Exclusive :=
  ⟨nofun, nofun, nofun, nofun, .nil⟩

/-- Whatever happens, a predictor is sent to by one round at a time, and by none while its report is
awaited; and whenever it is, its model is in training and refuses others. -/
theorem exclusive_turns (h : c.traffic.Exclusive) (xs : List (Moment × Turn)) :
    (c.turns xs).1.traffic.Exclusive := by
  induction xs generalizing c with
  | nil => exact h
  | cons x xs ih => exact ih (exclusive_takes (c := { c with now := x.1, outbox := [] }) h x.2)

end Controller

end PredictiveScaling
