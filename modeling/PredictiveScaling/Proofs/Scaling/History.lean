import PredictiveScaling.Proofs.Scaling.Decision

/-!
# Histories of a scaler

A scaler is called again and again: to go up, to go down, or to move towards a target.
Each call comes at a time and meets whatever the orchestrator answers then. A history
tells the calls together with how they ended; it starts from any scaler, and neither the
answers nor the times of two calls need to agree.
-/
namespace PredictiveScaling.Scaler

/-- What a scaler is told to do. -/
inductive Command where
  | upTo (n : Int32)
  | downTo (n : Int32)
  | applyTarget (target : Int32) (scaleDown : ScaleDown)

/-- A command with the time at which it is given and the answers of the orchestrator. -/
structure Call where
  now : Nat
  command : Command
  answers : ClientAnswers

/-- A call and how it ended. -/
structure Entry where
  call : Call
  attempt : Attempt

/-- Carry out one call. -/
def perform (s : Scaler) (x : Call) : Scaler × Attempt :=
  match x.command with
  | .upTo n => s.upTo x.answers n
  | .downTo n => s.downTo x.answers n
  | .applyTarget target d => s.applyTarget x.answers x.now target d

/-- All calls in their order, with how they ended. -/
def history (s : Scaler) : List Call → List Entry
  | [] => []
  | x :: xs => ⟨x, (s.perform x).2⟩ :: (s.perform x).1.history xs

variable {s : Scaler} {x : Call} {xs : List Call}

@[simp] theorem history_cons (s : Scaler) (x : Call) (xs : List Call) :
    s.history (x :: xs) = ⟨x, (s.perform x).2⟩ :: (s.perform x).1.history xs := rfl

@[simp] theorem length_history (s : Scaler) (xs : List Call) :
    (s.history xs).length = xs.length := by
  induction xs generalizing s with
  | nil => rfl
  | cons x xs ih => rw [history_cons, List.length_cons, ih, List.length_cons]

/-! ## One call -/

/-- Without the count nothing is decided and nothing changes. -/
theorem perform_of_count_error {cause : SourceError} (h : x.answers.count = .error cause) :
    s.perform x = (s, ⟨.error (.client cause), none⟩) := by
  simp only [perform, upTo, downTo, applyTarget, attempt]
  split <;> rw [h]

theorem perform_upTo {n current : Int32} (hc : x.command = .upTo n)
    (hr : x.answers.count = .ok current) :
    s.perform x = (s, conclude x.answers.set (s.config.raise current n)) := by
  simp only [perform, hc, upTo, attempt, hr]

theorem perform_downTo {n current : Int32} (hc : x.command = .downTo n)
    (hr : x.answers.count = .ok current) :
    s.perform x = (s, conclude x.answers.set (s.config.lower current n)) := by
  simp only [perform, hc, downTo, attempt, hr]

theorem perform_applyTarget {target current : Int32} {d : ScaleDown}
    (hc : x.command = .applyTarget target d) (hr : x.answers.count = .ok current) :
    s.perform x = ((s.decide x.now d current target).1,
      conclude x.answers.set (s.decide x.now d current target).2) := by
  simp only [perform, hc, applyTarget, attempt, hr]

/-- An attempt at a target above the count, where the orchestrator does what it is asked for,
scales up. -/
theorem perform_of_above {target current : Int32} {d : ScaleDown}
    (hc : x.command = .applyTarget target d) (ha : x.answers = ⟨.ok current, .ok ()⟩)
    (above : current < target) (fits : target ≤ s.config.maxReplicas) :
    s.perform x = (s.resetWindow, ⟨.ok (.scaledUp current target), some target⟩) := by
  have hr : x.answers.count = .ok current := by rw [ha]
  have hfits : ¬ s.config.maxReplicas < target := by grind
  rw [perform_applyTarget hc hr, ha]
  simp only [decide, if_pos above, ScalerConfig.raise_of_lt above, if_neg hfits, conclude]

/-- An attempt that finds a large enough drop, where the orchestrator does what it is asked
for, is deferred until the window is old enough, and scales down then. -/
theorem perform_of_drops {target current : Int32} {d : ScaleDown}
    (hc : x.command = .applyTarget target d) (ha : x.answers = ⟨.ok current, .ok ()⟩)
    (drops : s.config.Drops d.threshold current target) :
    s.perform x =
      if x.now - s.belowSince.getD x.now < d.duration.millis then
        ({ s with belowSince := some (s.belowSince.getD x.now) },
          ⟨.ok (.deferred (s.config.floored target) current), none⟩)
      else
        (s.resetWindow, ⟨.ok (.scaledDown current (s.config.floored target)),
          some (s.config.floored target)⟩) := by
  have hr : x.answers.count = .ok current := by rw [ha]
  rw [perform_applyTarget hc hr, decide_of_drops s x.now d drops, ha]
  split <;> rfl

@[simp] theorem issued_conclude_settled (set : Except SourceError Unit)
    (r : Except ScaleError ScaleAction) : (conclude set (.settled r)).issued = none := rfl

@[simp] theorem issued_conclude_set (set : Except SourceError Unit) (n : Int32)
    (a : ScaleAction) : (conclude set (.set n a)).issued = some n := by
  cases set <;> rfl

/-- What was set is what was decided to be set. -/
theorem eq_set_of_issued {set : Except SourceError Unit} {x : Decision} {n : Int32}
    (h : (conclude set x).issued = some n) : ∃ a, x = .set n a := by
  cases x with
  | settled r => simp at h
  | set m a =>
    rw [issued_conclude_set, Option.some.injEq] at h
    exact ⟨a, by rw [h]⟩

/-- A scaler keeps its settings. -/
theorem config_perform (s : Scaler) (x : Call) : (s.perform x).1.config = s.config := by
  cases hr : x.answers.count with
  | error cause => rw [perform_of_count_error hr]
  | ok current =>
    cases hc : x.command with
    | upTo n => rw [perform_upTo hc hr]
    | downTo n => rw [perform_downTo hc hr]
    | applyTarget target d =>
      rw [perform_applyTarget hc hr]
      exact (course_decide s x.now d current target).config_eq

/-- Each entry of a history comes of one call to a scaler with the same settings. -/
theorem exists_perform_of_mem_history {e : Entry} (he : e ∈ s.history xs) :
    ∃ (t : Scaler) (x : Call), t.config = s.config ∧ x ∈ xs ∧ e = ⟨x, (t.perform x).2⟩ := by
  induction xs generalizing s with
  | nil => cases he
  | cons x xs ih =>
    rw [history_cons, List.mem_cons] at he
    rcases he with rfl | he
    · exact ⟨s, x, rfl, List.mem_cons_self, rfl⟩
    · obtain ⟨t, y, config, hy, rfl⟩ := ih he
      exact ⟨t, y, config.trans (config_perform s x), List.mem_cons_of_mem x hy, rfl⟩

end PredictiveScaling.Scaler
