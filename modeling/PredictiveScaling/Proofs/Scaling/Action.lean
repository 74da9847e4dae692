import PredictiveScaling.Proofs.Scaling.History
import PredictiveScaling.Simulation.Actions

/-!
# What the result of a call tells

A call asks the orchestrator to set a count once or not at all, and its result tells which
of the two it was. An action that scales names the count that was set. A fault of the
client after the count was read comes of a set that has failed. With any other result the
orchestrator was asked for nothing. A count that is not above or not below the current one
is found out first, before any bound, and never in an attempt at a target.
-/
namespace PredictiveScaling

/-! ## Decisions -/

/-- The action sets nothing. -/
def ScaleAction.IsIdle : ScaleAction → Prop
  | .scaledUp .. | .scaledDown .. => False
  | .refused .. | .deferred .. | .unchanged .. => True

/-- What may be decided at a count. Where a count is set, the action names both counts, and
they differ in its direction. -/
inductive Decision.Sound (current : Int32) : Decision → Prop where
  | idle {a : ScaleAction} (h : a.IsIdle) : Sound current (.settled (.ok a))
  | notAbove (n : Int32) : Sound current (.settled (.error (.notAbove n current)))
  | notBelow (n : Int32) : Sound current (.settled (.error (.notBelow n current)))
  | up {n : Int32} (above : current < n) : Sound current (.set n (.scaledUp current n))
  | down {n : Int32} (below : n < current) : Sound current (.set n (.scaledDown current n))

namespace ScalerConfig
variable {c : ScalerConfig} {current n : Int32} {e : ScaleError}

theorem sound_raise (c : ScalerConfig) (current n : Int32) :
    (c.raise current n).Sound current := by
  rw [raise]
  split
  · exact .notAbove n
  · next above =>
    split
    · exact .idle trivial
    · exact .up (by grind)

theorem sound_lower (c : ScalerConfig) (current n : Int32) :
    (c.lower current n).Sound current := by
  rw [lower]
  split
  · exact .notBelow n
  · next below =>
    split
    · exact .idle trivial
    · exact .down (by grind)

/-- The bounds do not matter for whether a count is above the current one. -/
theorem raise_eq_error_iff :
    c.raise current n = .settled (.error e) ↔ n ≤ current ∧ e = .notAbove n current := by
  rw [raise]
  split
  · next h =>
    simp only [h, Decision.settled.injEq, Except.error.injEq, true_and]
    exact eq_comm
  · next h =>
    simp only [h, false_and, iff_false]
    split <;> intro hx <;> cases hx

theorem lower_eq_error_iff :
    c.lower current n = .settled (.error e) ↔ current ≤ n ∧ e = .notBelow n current := by
  rw [lower]
  split
  · next h =>
    simp only [h, Decision.settled.injEq, Except.error.injEq, true_and]
    exact eq_comm
  · next h =>
    simp only [h, false_and, iff_false]
    split <;> intro hx <;> cases hx

end ScalerConfig

namespace Scaler
variable {s t : Scaler} {x : Call}

theorem Course.sound {now : Nat} {d : ScaleDown} {current target : Int32} {decision : Decision}
    (h : Course s now d current target t decision) : decision.Sound current := by
  cases h with
  | raised above _ => exact .up above
  | refused | level | slight | held => exact .idle trivial
  | lowered drops _ => exact .down drops.1

/-- No course trips over a guard. -/
theorem Course.ne_error {now : Nat} {d : ScaleDown} {current target : Int32} {decision : Decision}
    {e : ScaleError} (h : Course s now d current target t decision) :
    decision ≠ .settled (.error e) := by
  cases h <;> intro hx <;> cases hx

/-- Once the count is read, a call carries out a sound decision. -/
theorem exists_sound {current : Int32} (hr : x.answers.count = .ok current) :
    ∃ decision : Decision, decision.Sound current ∧
      (s.perform x).2 = conclude x.answers.set decision := by
  cases hc : x.command with
  | upTo n => exact ⟨_, s.config.sound_raise current n, by rw [perform_upTo hc hr]⟩
  | downTo n => exact ⟨_, s.config.sound_lower current n, by rw [perform_downTo hc hr]⟩
  | applyTarget target d =>
    exact ⟨_, (course_decide s x.now d current target).sound,
      by rw [perform_applyTarget hc hr]⟩

/-! ## Results -/

/-- An action that scales down names the count that was read and the lower one that was set. -/
theorem issued_of_scaledDown {current n : Int32}
    (h : (s.perform x).2.result = .ok (.scaledDown current n)) :
    x.answers.count = .ok current ∧ n < current ∧ (s.perform x).2.issued = some n := by
  cases hr : x.answers.count with
  | error cause =>
    rw [perform_of_count_error hr] at h
    cases h
  | ok c =>
    obtain ⟨decision, sound, hd⟩ := exists_sound (s := s) hr
    rw [hd] at h ⊢
    cases sound with
    | idle idle =>
      cases h
      exact idle.elim
    | notAbove | notBelow => cases h
    | up above =>
      cases hset : x.answers.set with
      | error => rw [hset] at h; cases h
      | ok => rw [hset] at h; cases h
    | down below =>
      cases hset : x.answers.set with
      | error => rw [hset] at h; cases h
      | ok =>
        rw [hset] at h
        cases h
        exact ⟨rfl, below, rfl⟩

/-- A fault that is not the client's was decided on. -/
theorem result_conclude_eq_error_iff {set : Except SourceError Unit} {decision : Decision}
    {e : ScaleError} (he : ∀ cause, e ≠ .client cause) :
    (conclude set decision).result = .error e ↔ decision = .settled (.error e) := by
  cases decision with
  | settled r => simp only [conclude, Decision.settled.injEq]
  | set n a =>
    simp only [reduceCtorEq, iff_false]
    cases set with
    | ok =>
      intro h
      cases h
    | error cause =>
      intro h
      cases h
      exact he cause rfl

/-- A fault that is not the client's comes of the guard of a command to go up or down, and
tells the truth. -/
theorem result_eq_error_iff {e : ScaleError} (he : ∀ cause, e ≠ .client cause) :
    (s.perform x).2.result = .error e ↔ ∃ current, x.answers.count = .ok current ∧
      ((∃ n, x.command = .upTo n ∧ n ≤ current ∧ e = .notAbove n current) ∨
        ∃ n, x.command = .downTo n ∧ current ≤ n ∧ e = .notBelow n current) := by
  cases hr : x.answers.count with
  | error cause =>
    rw [perform_of_count_error hr]
    simp [(he cause).symm]
  | ok current =>
    cases hc : x.command with
    | upTo n =>
      rw [perform_upTo hc hr, result_conclude_eq_error_iff he, ScalerConfig.raise_eq_error_iff]
      simp
    | downTo n =>
      rw [perform_downTo hc hr, result_conclude_eq_error_iff he, ScalerConfig.lower_eq_error_iff]
      simp
    | applyTarget target d =>
      rw [perform_applyTarget hc hr, result_conclude_eq_error_iff he]
      simp [(course_decide s x.now d current target).ne_error]

theorem result_eq_notAbove_iff {n current : Int32} :
    (s.perform x).2.result = .error (.notAbove n current) ↔
      x.command = .upTo n ∧ x.answers.count = .ok current ∧ n ≤ current := by
  rw [result_eq_error_iff (by simp)]
  constructor
  · rintro ⟨_, hr, ⟨_, hc, h, he⟩ | ⟨_, -, -, he⟩⟩ <;> cases he
    exact ⟨hc, hr, h⟩
  · rintro ⟨hc, hr, h⟩
    exact ⟨current, hr, .inl ⟨n, hc, h, rfl⟩⟩

theorem result_eq_notBelow_iff {n current : Int32} :
    (s.perform x).2.result = .error (.notBelow n current) ↔
      x.command = .downTo n ∧ x.answers.count = .ok current ∧ current ≤ n := by
  rw [result_eq_error_iff (by simp)]
  constructor
  · rintro ⟨_, hr, ⟨_, -, -, he⟩ | ⟨_, hc, h, he⟩⟩ <;> cases he
    exact ⟨hc, hr, h⟩
  · rintro ⟨hc, hr, h⟩
    exact ⟨current, hr, .inr ⟨n, hc, h, rfl⟩⟩

end Scaler

/-! ## The orchestrator -/

/-- The orchestrator after an attempt has asked it to set what it sets. -/
def Orchestrator.obey (o : Orchestrator) (a : Attempt) : Orchestrator :=
  match a.issued with
  | some n => (o.set n).2
  | none => o

namespace Orchestrator

/-- A count that is set with success is held. -/
theorem replicas_obey_of_ok {o : Orchestrator} {a : Attempt} {n : Int32}
    (h : a.issued = some n) (set : o.mood.setAnswer = .ok ()) : (o.obey a).replicas = n := by
  simp only [obey, h, Orchestrator.set, set]

theorem replicas_obey_of_error {o : Orchestrator} {a : Attempt} {cause : SourceError}
    (set : o.mood.setAnswer = .error cause) : (o.obey a).replicas = o.replicas := by
  rw [obey]
  split
  · simp only [Orchestrator.set, set]
  · rfl

theorem sets_obey_le (o : Orchestrator) (a : Attempt) : (o.obey a).sets ≤ o.sets + 1 := by
  rw [obey]
  split
  · exact Nat.le_refl _
  · exact Nat.le_succ _

end Orchestrator

/-- The result of an attempt tells what was done at an orchestrator, after a read that was
answered by `count`. -/
structure Attempt.Tells (a : Attempt) (count : Except SourceError Int32) (o : Orchestrator) :
    Prop where
  /-- No more than one set is made. -/
  once : (o.obey a).sets ≤ o.sets + 1
  /-- A set is made and succeeds if and only if the action scales, to the count that is set. -/
  set_iff : ∀ n, a.issued = some n ∧ o.mood.setAnswer = .ok () ↔
    ∃ current, a.result = .ok (.scaledUp current n) ∨ a.result = .ok (.scaledDown current n)
  up : ∀ current n, a.result = .ok (.scaledUp current n) →
    count = .ok current ∧ current < n ∧ (o.obey a).replicas = n
  down : ∀ current n, a.result = .ok (.scaledDown current n) →
    count = .ok current ∧ n < current ∧ (o.obey a).replicas = n
  /-- A fault of the client is that of a set if the count was read, and leaves the count. -/
  failed : ∀ current cause, count = .ok current → a.result = .error (.client cause) →
    a.issued.isSome ∧ o.mood.setAnswer = .error cause ∧ (o.obey a).replicas = o.replicas
  /-- With any other result nothing is set, and the orchestrator stays as it is. -/
  idle : (∀ current n, a.result ≠ .ok (.scaledUp current n)) →
    (∀ current n, a.result ≠ .ok (.scaledDown current n)) →
    (∀ current cause, count = .ok current → a.result ≠ .error (.client cause)) →
    a.issued = none ∧ o.obey a = o

/-- Nothing is done where the count cannot be read. -/
theorem tells_of_unread (cause : SourceError) (o : Orchestrator) :
    Attempt.Tells ⟨.error (.client cause), none⟩ (.error cause) o where
  once := o.sets_obey_le _
  set_iff := by simp
  up := by simp
  down := by simp
  failed := by simp
  idle _ _ _ := ⟨rfl, rfl⟩

/-- What settles an attempt without a set. -/
theorem tells_of_settled {current : Int32} {r : Except ScaleError ScaleAction} {o : Orchestrator}
    (up : ∀ current n, r ≠ .ok (.scaledUp current n))
    (down : ∀ current n, r ≠ .ok (.scaledDown current n))
    (client : ∀ cause, r ≠ .error (.client cause)) :
    (Scaler.conclude o.mood.setAnswer (.settled r)).Tells (.ok current) o where
  once := o.sets_obey_le _
  set_iff n := by simp [Scaler.conclude, up, down]
  up _ _ h := absurd h (up _ _)
  down _ _ h := absurd h (down _ _)
  failed _ _ _ h := absurd h (client _)
  idle _ _ _ := ⟨rfl, rfl⟩

/-- A set that fails. -/
theorem tells_of_failed {current n : Int32} {cause : SourceError} {o : Orchestrator}
    (set : o.mood.setAnswer = .error cause) :
    Attempt.Tells ⟨.error (.client cause), some n⟩ (.ok current) o where
  once := o.sets_obey_le _
  set_iff m := by simp [set]
  up := by simp
  down := by simp
  failed c cause' _ h := by
    obtain rfl : cause = cause' := by simpa using h
    exact ⟨rfl, set, Orchestrator.replicas_obey_of_error set⟩
  idle _ _ client := absurd rfl (client current cause rfl)

/-- A set that succeeds. -/
theorem tells_of_scaledUp {current n : Int32} {o : Orchestrator} (above : current < n)
    (set : o.mood.setAnswer = .ok ()) :
    Attempt.Tells ⟨.ok (.scaledUp current n), some n⟩ (.ok current) o where
  once := o.sets_obey_le _
  set_iff m := by simp [set]
  up c m h := by
    simp only [Except.ok.injEq, ScaleAction.scaledUp.injEq] at h
    obtain ⟨rfl, rfl⟩ := h
    exact ⟨rfl, above, Orchestrator.replicas_obey_of_ok rfl set⟩
  down := by simp
  failed := by simp
  idle up _ _ := absurd rfl (up current n)

theorem tells_of_scaledDown {current n : Int32} {o : Orchestrator} (below : n < current)
    (set : o.mood.setAnswer = .ok ()) :
    Attempt.Tells ⟨.ok (.scaledDown current n), some n⟩ (.ok current) o where
  once := o.sets_obey_le _
  set_iff m := by simp [set]
  up := by simp
  down c m h := by
    simp only [Except.ok.injEq, ScaleAction.scaledDown.injEq] at h
    obtain ⟨rfl, rfl⟩ := h
    exact ⟨rfl, below, Orchestrator.replicas_obey_of_ok rfl set⟩
  failed := by simp
  idle _ down _ := absurd rfl (down current n)

/-- What is soundly decided is told by the result. -/
theorem Decision.Sound.tells {current : Int32} {decision : Decision} (h : decision.Sound current)
    (o : Orchestrator) :
    (Scaler.conclude o.mood.setAnswer decision).Tells (.ok current) o := by
  cases h with
  | notAbove | notBelow => exact tells_of_settled (by simp) (by simp) (by simp)
  | @idle a idle =>
    cases a with
    | scaledUp | scaledDown => exact idle.elim
    | refused | deferred | unchanged => exact tells_of_settled (by simp) (by simp) (by simp)
  | @up n above =>
    cases set : o.mood.setAnswer with
    | error => exact tells_of_failed set
    | ok => exact tells_of_scaledUp above set
  | @down n below =>
    cases set : o.mood.setAnswer with
    | error => exact tells_of_failed set
    | ok => exact tells_of_scaledDown below set

/-- **A result is true.** Whatever the scaler and the orchestrator are like, and whatever the
read answers: no more than one set is made, and the result tells whether there was one, from
which count to which, and whether it has succeeded. That a count is not above or not below the
current one is the result of exactly those commands to go up or down of which it is true; no
attempt at a target has it. -/
theorem Scaler.result_tells_sets (s : Scaler) (now : Nat) (command : Command)
    (count : Except SourceError Int32) (o : Orchestrator) :
    (s.perform ⟨now, command, count, o.mood.setAnswer⟩).2.Tells count o ∧
      (∀ n current,
        (s.perform ⟨now, command, count, o.mood.setAnswer⟩).2.result =
          .error (.notAbove n current) ↔
        command = .upTo n ∧ count = .ok current ∧ n ≤ current) ∧
      (∀ n current,
        (s.perform ⟨now, command, count, o.mood.setAnswer⟩).2.result =
          .error (.notBelow n current) ↔
        command = .downTo n ∧ count = .ok current ∧ current ≤ n) := by
  refine ⟨?_, fun n current => result_eq_notAbove_iff, fun n current => result_eq_notBelow_iff⟩
  cases count with
  | error cause =>
    have unread := perform_of_count_error (s := s)
      (x := ⟨now, command, .error cause, o.mood.setAnswer⟩) rfl
    rw [unread]
    exact tells_of_unread cause o
  | ok current =>
    obtain ⟨decision, sound, h⟩ := exists_sound (s := s)
      (x := ⟨now, command, .ok current, o.mood.setAnswer⟩) rfl
    rw [h]
    exact sound.tells o

/-- An attempt in a simulation reads the count and then does to the orchestrator what it has
issued, and nothing else. -/
theorem Simulation.attempt_eq (s : Simulation)
    (f : Scaler → ClientAnswers → Nat → Scaler × Attempt) :
    s.attempt f = s.readCount.map fun (count, t) =>
      let (scaler, a) := f t.controller.scaler ⟨count, t.orchestrator.mood.setAnswer⟩ t.now.steady
      (a.result, { t with orchestrator := t.orchestrator.obey a }.act
        fun c => { c with scaler }) := rfl

end PredictiveScaling
