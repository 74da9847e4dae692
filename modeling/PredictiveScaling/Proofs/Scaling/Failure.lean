import PredictiveScaling.Proofs.Scaling.Action
import PredictiveScaling.Proofs.Scaling.Window

/-!
# Failed attempts

An attempt at a target fails where the count cannot be read, or where a count was decided on
and cannot be set. Without the count nothing has happened, so the window goes on and a
scale-down that is due is made by the next attempt. A target above the count ends the
window, whether or not the count can be set then.
-/
namespace PredictiveScaling.Scaler

variable {s : Scaler} {x y : Call} {target current : Int32} {d : ScaleDown} {error : ScaleError}

/-- The window is old enough for a scale-down with these settings. -/
def Due (s : Scaler) (now : Nat) (d : ScaleDown) : Prop :=
  d.duration.millis ≤ now - s.belowSince.getD now

/-- How an attempt fails. -/
inductive Fails (s : Scaler) (x : Call) (target : Int32) (d : ScaleDown) (error : ScaleError) :
    Prop where
  | unread {cause : SourceError} (unread : x.answers.count = .error cause)
      (stated : error = .client cause)
  | raising {current : Int32} {cause : SourceError} (read : x.answers.count = .ok current)
      (above : current < target) (unset : x.answers.set = .error cause)
      (stated : error = .client cause)
  | lowering {current : Int32} {cause : SourceError} (read : x.answers.count = .ok current)
      (drops : s.config.Drops d.threshold current target) (due : s.Due x.now d)
      (unset : x.answers.set = .error cause) (stated : error = .client cause)

/-- A set that was decided on fails with what the orchestrator says. -/
theorem unset_of_result {set : Except SourceError Unit} {n : Int32} {a : ScaleAction}
    (h : (conclude set (.set n a)).result = .error error) :
    ∃ cause, set = .error cause ∧ error = .client cause := by
  cases set with
  | ok => cases h
  | error cause =>
    cases h
    exact ⟨cause, rfl, rfl⟩

theorem fails_of_result (hx : x.command = .applyTarget target d)
    (failed : (s.perform x).2.result = .error error) : Fails s x target d error := by
  cases hr : x.answers.count with
  | error cause =>
    rw [perform_of_count_error hr] at failed
    cases failed
    exact .unread hr rfl
  | ok current =>
    rw [perform_applyTarget hx hr] at failed
    have course := course_decide s x.now d current target
    generalize s.decide x.now d current target = r at failed course
    obtain ⟨after, decision⟩ := r
    cases course with
    | refused | level | slight | held => cases failed
    | raised above _ =>
      obtain ⟨cause, unset, stated⟩ := unset_of_result failed
      exact .raising hr above unset stated
    | lowered drops due =>
      obtain ⟨cause, unset, stated⟩ := unset_of_result failed
      exact .lowering hr drops due unset stated

/-- A target above the count ends the window, whatever becomes of the attempt. -/
theorem belowSince_of_above (hx : x.command = .applyTarget target d)
    (hr : x.answers.count = .ok current) (above : current < target) :
    (s.perform x).1.belowSince = none := by
  rw [perform_applyTarget hx hr]
  simp only [decide, if_pos above, resetWindow]

/-- A scale-down that is due is made. -/
theorem perform_of_due (hx : x.command = .applyTarget target d)
    (ha : x.answers = ⟨.ok current, .ok ()⟩)
    (drops : s.config.Drops d.threshold current target) (due : s.Due x.now d) :
    (s.perform x).2 = ⟨.ok (.scaledDown current (s.config.floored target)),
      some (s.config.floored target)⟩ := by
  have late : ¬ x.now - s.belowSince.getD x.now < d.duration.millis := Nat.not_lt.2 due
  rw [perform_of_drops hx ha drops, if_neg late]

/-- Without a delay a scale-down is always due. -/
theorem due_of_instant (s : Scaler) (now : Nat) (instant : d.duration.millis = 0) :
    s.Due now d := by
  rw [Due, instant]
  exact Nat.zero_le _

/-- **After a failure.** An attempt fails only with a fault of the client. If the count could
not be read, the scaler is as it was; if it could be read and the target was above it, the
window has ended. Once the orchestrator does again what it is asked for, the next attempt at
the same target goes up if the target is above the count, and goes down if the drop is large
enough and the window that was there before the failed read is old enough, or no delay is
asked for. -/
theorem attempt_after_failure (hx : x.command = .applyTarget target d)
    (failed : (s.perform x).2.result = .error error) :
    (∀ cause, x.answers.count = .error cause → error = .client cause ∧ (s.perform x).1 = s) ∧
    (∀ current, x.answers.count = .ok current →
      (∃ cause, x.answers.set = .error cause ∧ error = .client cause) ∧
        (current < target → (s.perform x).1.belowSince = none)) ∧
    (∀ y current, y.command = x.command → y.answers = ⟨.ok current, .ok ()⟩ →
      (current < target → target ≤ s.config.maxReplicas →
        ((s.perform x).1.perform y).2 = ⟨.ok (.scaledUp current target), some target⟩) ∧
      (s.config.Drops d.threshold current target →
        (∃ cause, x.answers.count = .error cause) ∧ s.Due y.now d ∨ d.duration.millis = 0 →
        ((s.perform x).1.perform y).2 = ⟨.ok (.scaledDown current (s.config.floored target)),
          some (s.config.floored target)⟩)) := by
  have config := config_perform s x
  refine ⟨?_, ?_, ?_⟩
  · intro cause hr
    rw [perform_of_count_error hr] at failed ⊢
    cases failed
    exact ⟨rfl, rfl⟩
  · intro current hr
    refine ⟨?_, belowSince_of_above hx hr⟩
    cases fails_of_result hx failed with
    | unread unread => rw [hr] at unread; cases unread
    | raising _ _ unset stated => exact ⟨_, unset, stated⟩
    | lowering _ _ _ unset stated => exact ⟨_, unset, stated⟩
  · intro y current hy ha
    rw [hx] at hy
    refine ⟨?_, ?_⟩
    · intro above fits
      rw [perform_of_above hy ha above (by rwa [config])]
    · intro drops hdue
      have due : (s.perform x).1.Due y.now d := by
        rcases hdue with ⟨⟨cause, hr⟩, due⟩ | instant
        · rwa [perform_of_count_error hr]
        · exact due_of_instant _ _ instant
      rw [perform_of_due hy ha (by rwa [config]) due, config]

/-- A scaler that may hold one to twenty replicas, with a window that was opened at zero. -/
def opened : Scaler := ⟨⟨1, 20, .steady, .max, .selectMax⟩, some 0⟩

theorem drops_opened : opened.config.Drops 0.0 10 4 := ⟨by decide, by decide +kernel⟩

theorem due_opened : opened.Due 70 ⟨0.0, .ofMillis 50⟩ := by
  rw [Due]
  decide

/-- An attempt at the target with a delay of fifty milliseconds. -/
def delayed (now : Nat) (target : Int32) (answers : ClientAnswers) : Call :=
  ⟨now, .applyTarget target ⟨0.0, .ofMillis 50⟩, answers⟩

/-- A read that fails at sixty does not put off the scale-down that is due since fifty. -/
theorem attempt_after_failure_of_read :
    (opened.perform (delayed 60 4 ⟨.error (.request "boom"), .ok ()⟩)).2.result =
        .error (.client (.request "boom")) ∧
      opened.config.Drops 0.0 10 4 ∧ opened.Due 70 ⟨0.0, .ofMillis 50⟩ ∧
      ((opened.perform (delayed 60 4 ⟨.error (.request "boom"), .ok ()⟩)).1.perform
        (delayed 70 4 ⟨.ok 10, .ok ()⟩)).2 = ⟨.ok (.scaledDown 10 4), some 4⟩ := by
  obtain ⟨-, -, next⟩ := attempt_after_failure (s := opened)
    (x := delayed 60 4 ⟨.error (.request "boom"), .ok ()⟩) rfl rfl
  exact ⟨rfl, drops_opened, due_opened,
    (next (delayed 70 4 ⟨.ok 10, .ok ()⟩) 10 rfl rfl).2 drops_opened
      (.inl ⟨⟨_, rfl⟩, due_opened⟩)⟩

/-- A failure may change the window: a target above the count has ended it when the count
cannot be set. And after a failure a scale-down may be put off that was due before: it was
decided on, which has ended the window, and its count could not be set. -/
theorem not_window_kept_by_failure :
    (¬ ∀ (s : Scaler) (x : Call) (target : Int32) (d : ScaleDown) (error : ScaleError),
      x.command = .applyTarget target d → (s.perform x).2.result = .error error →
      (s.perform x).1.belowSince = s.belowSince) ∧
    (¬ ∀ (s : Scaler) (x y : Call) (target current : Int32) (d : ScaleDown) (error : ScaleError),
      x.command = .applyTarget target d → (s.perform x).2.result = .error error →
      y.command = x.command → y.answers = ⟨.ok current, .ok ()⟩ →
      s.config.Drops d.threshold current target → s.Due y.now d →
      ∃ n, ((s.perform x).1.perform y).2.result = .ok (.scaledDown current n)) := by
  constructor
  · intro h
    have kept := h opened (delayed 60 12 ⟨.ok 10, .error (.request "boom")⟩) 12 _
      (.client (.request "boom")) rfl rfl
    cases kept
  · intro h
    have failed : (opened.perform (delayed 60 4 ⟨.ok 10, .error (.request "boom")⟩)).2.result =
        .error (.client (.request "boom")) := by decide +kernel
    have next : ((opened.perform (delayed 60 4 ⟨.ok 10, .error (.request "boom")⟩)).1.perform
        (delayed 70 4 ⟨.ok 10, .ok ()⟩)).2.result = .ok (.deferred 4 10) := by decide +kernel
    obtain ⟨n, hn⟩ := h opened (delayed 60 4 ⟨.ok 10, .error (.request "boom")⟩)
      (delayed 70 4 ⟨.ok 10, .ok ()⟩) 4 10 _ _ rfl failed rfl rfl drops_opened due_opened
    rw [next] at hn
    cases hn

end PredictiveScaling.Scaler
