import PredictiveScaling.Remote.Dispatch

/-!
# The life of a served model

Trainings of a served model are called for at any time, their requests go out or fail to,
exchanges about forecasts end, and reports come in or do not. In whatever order this
happens, no more than one round is in flight, and the phase is that of a training just as
long as there is one. Without a round the phase is the one that the flag tells. So the
rounds and the readiness of a predictor are always in step (`InStep`), and all else about
its life is read off that.

A dispatch that is given up together with the evaluation it belongs to
(`RemotePredictor.abandonDispatch`) is no event here: its call never returns, its round is
gone, and the phase stays that of a training.
-/
namespace PredictiveScaling

/-- What happens to a predictor with a served model. -/
inductive RemoteEvent where
  /-- A training is called for while there are these samples. -/
  | trainingBegins (samples : Buffer)
  /-- A listener waits for the report of a round and the request went out, or one of the two
  has failed. -/
  | dispatchEnds (round : Nat) (result : Except PredictError Unit)
  /-- An exchange about a forecast has ended. -/
  | exchangeEnds (request : PredictRequest) (answer : Except PredictError PredictReply)
  /-- What a round has waited for has come, or it will not come. -/
  | roundEnds (round : Nat) (arrival : Arrival)

namespace RemotePredictor

/-- A predictor whose model was never trained. -/
def untrained (key : String) (params : RemoteParams) : RemotePredictor :=
  ⟨key, params, .initial, [], 0⟩

/-- What an event does. One about a round that has not come so far does nothing. -/
def undergo (p : RemotePredictor) : RemoteEvent → RemotePredictor
  | .trainingBegins samples =>
    match p.beginRound samples with
    | .ok (_, p) => p
    | .error _ => p
  | .dispatchEnds round result =>
    if ⟨round, .dispatching⟩ ∈ p.rounds then
      match result with
      | .ok () => p.dispatched round
      | .error _ => p.rollBack round
    else p
  | .exchangeEnds request answer => (p.takeExchange request answer).2
  | .roundEnds round arrival =>
    if ⟨round, .awaiting⟩ ∈ p.rounds then p.endRound round (.ofArrival p.key arrival) else p

/-- The rounds in flight and the readiness go together: in a training there is one round,
and otherwise none, while the phase is the one that the flag tells. -/
def InStep (p : RemotePredictor) : Prop :=
  match p.rounds with
  | [] => p.readiness.phase = ModelReadiness.restingPhase p.readiness.ready
  | [_] => p.readiness.phase = .training
  | _ :: _ :: _ => False

variable {p p' : RemotePredictor} {round : Nat} {samples : Buffer}

theorem untrained_of_new {key : String} {params : RemoteParams}
    (h : new key params = .ok p) : p = untrained key params := by
  rw [new] at h
  cases hv : params.validate with
  | error fault => rw [hv] at h; cases h
  | ok u => rw [hv] at h; cases h; rfl

theorem inStep_untrained (key : String) (params : RemoteParams) :
    (untrained key params).InStep :=
  rfl

/-! ## What being in step says -/

theorem InStep.length_rounds_le (h : p.InStep) : p.rounds.length ≤ 1 := by
  rw [InStep] at h
  split at h
  · next hr => rw [hr]; exact Nat.zero_le 1
  · next hr => rw [hr]; exact Nat.le_refl 1
  · exact h.elim

/-- Outside of a training the phase is untrained or ready. -/
theorem restingPhase_ne_training (ready : Bool) :
    ModelReadiness.restingPhase ready ≠ .training := by
  cases ready <;> decide

theorem InStep.phase_eq_training_iff (h : p.InStep) :
    p.readiness.phase = .training ↔ p.rounds.length = 1 := by
  rw [InStep] at h
  split at h
  · next hr =>
    rw [h, hr]
    exact iff_of_false (restingPhase_ne_training _) (by decide)
  · next hr =>
    rw [h, hr]
    exact iff_of_true rfl rfl
  · exact h.elim

theorem InStep.rounds_eq_nil (h : p.InStep) (resting : p.readiness.phase ≠ .training) :
    p.rounds = [] := by
  have hle := h.length_rounds_le
  have hne : p.rounds.length ≠ 1 := fun hr => resting (h.phase_eq_training_iff.2 hr)
  exact List.eq_nil_of_length_eq_zero (by omega)

/-- Outside of a training the flag tells the phase. -/
theorem InStep.phase_eq_restingPhase (h : p.InStep) (resting : p.readiness.phase ≠ .training) :
    p.readiness.phase = ModelReadiness.restingPhase p.readiness.ready := by
  have hr := h.rounds_eq_nil resting
  rw [InStep] at h
  rw [hr] at h
  exact h

/-- A model that is ready has its flag set, and one that is untrained has not. -/
theorem InStep.ready_eq (h : p.InStep) :
    (p.readiness.phase = .ready → p.readiness.ready = true) ∧
      (p.readiness.phase = .untrained → p.readiness.ready = false) := by
  constructor
  · intro hphase
    have hrest := h.phase_eq_restingPhase (by rw [hphase]; decide)
    rw [hphase] at hrest
    cases hready : p.readiness.ready with
    | true => rfl
    | false => rw [hready] at hrest; cases hrest
  · intro hphase
    have hrest := h.phase_eq_restingPhase (by rw [hphase]; decide)
    rw [hphase] at hrest
    cases hready : p.readiness.ready with
    | true => rw [hready] at hrest; cases hrest
    | false => rfl

/-- A round that is in flight is the only one. -/
theorem InStep.rounds_eq_singleton (h : p.InStep) {r : TrainingRound} (hr : r ∈ p.rounds) :
    p.rounds = [r] := by
  rw [InStep] at h
  split at h
  · next hrounds => rw [hrounds] at hr; cases hr
  · next r' hrounds =>
    rw [hrounds, List.mem_singleton] at hr
    rw [hrounds, hr]
  · exact h.elim

/-! ## Beginning a round -/

/-- While a round is in flight, another training is refused and nothing changes. -/
theorem InStep.beginRound_eq (h : p.InStep) (busy : p.rounds ≠ [])
    (enough : p.params.trainSize.toNat ≤ samples.size) :
    p.beginRound samples = .error .trainingInProgress := by
  have hphase : p.readiness.phase = .training :=
    Decidable.byContradiction fun hne => busy (h.rounds_eq_nil hne)
  obtain ⟨values, hvalues, -⟩ := Buffer.exists_values? enough
  rw [beginRound]
  simp only [Nat.not_lt.2 enough, if_false, hvalues, ModelReadiness.begin?, hphase, if_true]

/-- A training that begins finds no other one, and takes the next number. -/
theorem beginRound_eq_ok {r : Nat × TrainRequest} (h : p.beginRound samples = .ok (r, p')) :
    p.readiness.phase ≠ .training ∧ r.1 = p.nextRound ∧ p' = { p with
      readiness := { p.readiness with phase := .training }
      rounds := p.rounds ++ [⟨p.nextRound, .dispatching⟩]
      nextRound := p.nextRound + 1 } := by
  rw [beginRound] at h
  dsimp only at h
  split at h
  · cases h
  · split at h
    · cases h
    · cases h
    · next hbegin =>
      rw [ModelReadiness.begin?] at hbegin
      split at hbegin
      · cases hbegin
      · next hphase =>
        cases hbegin
        cases h
        exact ⟨hphase, rfl, rfl⟩

/-! ## One event -/

theorem InStep.of_dropRound (h : p.InStep) {phase : RoundPhase}
    (mem : ⟨round, phase⟩ ∈ p.rounds) : (p.dropRound round).rounds = [] := by
  rw [dropRound]
  rw [h.rounds_eq_singleton mem]
  simp

theorem InStep.dispatched (h : p.InStep) (round : Nat) : (p.dispatched round).InStep := by
  rw [InStep] at h ⊢
  rw [RemotePredictor.dispatched]
  dsimp only
  generalize p.rounds = rounds at h
  match rounds, h with
  | [], h => exact h
  | [_], h => exact h

theorem InStep.rollBack (h : p.InStep) {phase : RoundPhase} (mem : ⟨round, phase⟩ ∈ p.rounds) :
    (p.rollBack round).InStep := by
  have hr : (p.rollBack round).rounds = [] := h.of_dropRound mem
  rw [InStep, hr]
  rfl

/-- Whatever comes of a round, the phase after it is the one that the flag tells. -/
theorem phase_conclude (r : ModelReadiness) (outcome : TrainingOutcome) :
    (r.conclude outcome).phase = ModelReadiness.restingPhase (r.conclude outcome).ready := by
  cases outcome <;> rfl

theorem InStep.endRound (h : p.InStep) {phase : RoundPhase} (mem : ⟨round, phase⟩ ∈ p.rounds)
    (outcome : TrainingOutcome) : (p.endRound round outcome).InStep := by
  have hr : (p.endRound round outcome).rounds = [] := h.of_dropRound mem
  rw [InStep, hr]
  exact phase_conclude p.readiness outcome

/-- A model that says it is not trained loses the flag; if it is in training it stays so. -/
theorem InStep.invalidate (h : p.InStep) :
    ({ p with readiness := p.readiness.invalidate } : RemotePredictor).InStep := by
  rw [InStep] at h ⊢
  dsimp only
  split at h
  · rw [ModelReadiness.invalidate, h]
    cases p.readiness.ready <;> rfl
  · rw [ModelReadiness.invalidate, h]
    rfl
  · exact h

theorem InStep.takeExchange (h : p.InStep) (request : PredictRequest)
    (answer : Except PredictError PredictReply) : (p.takeExchange request answer).2.InStep := by
  simp only [RemotePredictor.takeExchange]
  split
  · exact h
  · rw [takeReply]
    split
    · exact h
    · split
      · exact h.invalidate
      · exact h

/-- Every event leaves the rounds and the readiness in step. -/
theorem InStep.undergo (h : p.InStep) (x : RemoteEvent) : (p.undergo x).InStep := by
  cases x with
  | trainingBegins samples =>
    rw [RemotePredictor.undergo]
    split
    · next r p' hbegin =>
      obtain ⟨hphase, _, rfl⟩ := beginRound_eq_ok hbegin
      rw [InStep, h.rounds_eq_nil hphase]
      rfl
    · exact h
  | dispatchEnds round result =>
    simp only [RemotePredictor.undergo]
    split
    · next mem =>
      cases result with
      | ok u => exact h.dispatched round
      | error cause => exact h.rollBack mem
    · exact h
  | exchangeEnds request answer => exact h.takeExchange request answer
  | roundEnds round arrival =>
    rw [RemotePredictor.undergo]
    split
    · next mem => exact h.endRound mem _
    · exact h

/-- So does any number of events. -/
theorem InStep.foldl_undergo (h : p.InStep) (xs : List RemoteEvent) :
    (xs.foldl RemotePredictor.undergo p).InStep := by
  induction xs generalizing p with
  | nil => exact h
  | cons x xs ih => exact ih (h.undergo x)

/-! ## The two halves of a dispatch -/

/-- To begin a dispatch is to begin a round, and to end its dispatch if nobody can listen. -/
theorem beginDispatch_eq_undergo (p : RemotePredictor) (samples : Buffer) (s : Sockets) :
    (p.beginDispatch samples s).2.1 = p.undergo (.trainingBegins samples) ∨
      ∃ cause, (p.beginDispatch samples s).2.1 =
        (p.undergo (.trainingBegins samples)).undergo
          (.dispatchEnds p.nextRound (.error cause)) := by
  cases hbegin : p.beginRound samples with
  | error cause =>
    refine .inl ?_
    simp only [beginDispatch, undergo, hbegin]
  | ok begun =>
    obtain ⟨⟨round, request⟩, p'⟩ := begun
    have hnext := (beginRound_eq_ok hbegin).2
    simp only [beginDispatch, undergo, hbegin]
    obtain ⟨rfl, rfl⟩ := hnext
    split
    · next cause _ _ =>
      refine .inr ⟨.transport cause, ?_⟩
      rw [if_pos (by simp)]
    · exact .inl rfl

/-- To end a dispatch is one event. -/
theorem endDispatch_eq_undergo {d : Dispatch} (mem : ⟨d.round, .dispatching⟩ ∈ p.rounds)
    (s : Sockets) (result : Except PredictError Unit) :
    (p.endDispatch d s result).1 = p.undergo (.dispatchEnds d.round result) := by
  simp only [undergo, mem, if_true]
  cases result <;> rfl

/-! ## The whole life -/

/-- Whatever happens to a predictor, and in whatever order: its phase is that of a training
exactly while one round is in flight, and there is never more than one; a model that is ready
has its flag set, and one that is untrained has not; and a training that is called for while
a round is in flight is refused, if there are enough samples, and changes nothing. -/
theorem trains_one_at_a_time {key : String} {params : RemoteParams} (h : new key params = .ok p)
    (xs : List RemoteEvent) :
    let p := xs.foldl undergo p
    (p.readiness.phase = .training ↔ p.rounds.length = 1) ∧ p.rounds.length ≤ 1 ∧
      (p.readiness.phase = .ready → p.readiness.ready = true) ∧
      (p.readiness.phase = .untrained → p.readiness.ready = false) ∧
      ∀ samples s, p.rounds ≠ [] → p.params.trainSize.toNat ≤ samples.size →
        p.beginDispatch samples s = (.error .trainingInProgress, p, s) := by
  obtain rfl := untrained_of_new h
  have step := (inStep_untrained key params).foldl_undergo xs
  intro p
  refine ⟨step.phase_eq_training_iff, step.length_rounds_le, step.ready_eq.1, step.ready_eq.2, ?_⟩
  intro samples s busy enough
  rw [beginDispatch]
  rw [step.beginRound_eq busy enough]

/-- Parameters of a model that is trained with one sample. -/
def oneSampleParams : RemoteParams :=
  ⟨"/tmp/model.sock", "/tmp/report.sock", 1, 1, 1, 1, 1, 1⟩

/-- A first training succeeds. During the second one the model says that it is not trained,
and no report comes. -/
def lostInTraining : List RemoteEvent :=
  let samples := (Buffer.empty 0).append [⟨1.0, 0⟩]
  [.trainingBegins samples, .dispatchEnds 0 (.ok ()),
    .roundEnds 0 (.bytes (Line.write (TrainReport.toDocument ⟨true, none, none, ""⟩))),
    .trainingBegins samples, .dispatchEnds 1 (.ok ()),
    .exchangeEnds ⟨"cpu$$q$remote", [1.0], 1, 1⟩ (.ok ⟨false, none, [], none, ""⟩),
    .roundEnds 1 .nothing]

/-- The model was ready before the second training. In it the flag is lost and another
training is refused, and after it the model is untrained. -/
theorem trains_one_at_a_time_lostInTraining :
    let p := untrained "cpu$$q$remote" oneSampleParams
    let samples := (Buffer.empty 0).append [⟨1.0, 0⟩]
    let stage := fun n => (lostInTraining.take n).foldl undergo p
    (stage 3).readiness = ⟨true, .ready⟩ ∧
      (stage 6).readiness = ⟨false, .training⟩ ∧ (stage 6).rounds.length = 1 ∧
      ((stage 6).beginDispatch samples .empty).1.toOption.isNone ∧
      (stage 7).readiness = ⟨false, .untrained⟩ := by
  intro p samples stage
  have made : new "cpu$$q$remote" oneSampleParams = .ok p := by rfl
  obtain ⟨inTraining, -, -, -, refused⟩ := trains_one_at_a_time made (lostInTraining.take 6)
  have phase : (stage 6).readiness = ⟨false, .training⟩ := by decide +kernel
  have one : (stage 6).rounds.length = 1 := inTraining.1 (by rw [phase])
  have busy : (stage 6).rounds ≠ [] := fun h => by rw [h] at one; cases one
  refine ⟨by decide +kernel, phase, one, ?_, by decide +kernel⟩
  rw [refused samples .empty busy (by decide +kernel)]
  rfl

end RemotePredictor

end PredictiveScaling
