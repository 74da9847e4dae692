import PredictiveScaling.Proofs.Replicas.Word
import PredictiveScaling.Scaling.Scaler

/-!
# The courses of a decision

A scaler that moves towards a target takes one of six courses. `Course` lists them with
the condition of each, what becomes of the window, and what is decided; whatever is said
about a decision later goes through these six cases.
-/
namespace PredictiveScaling

namespace ScalerConfig
variable {c : ScalerConfig} {current n m : Int32} {a : ScaleAction}

/-! ## Going up and going down -/

theorem raise_of_lt (h : current < n) : c.raise current n =
    if c.maxReplicas < n then .settled (.ok (.refused n c.maxReplicas))
    else .set n (.scaledUp current n) := by
  have hn : ¬ n ≤ current := by grind
  simp only [raise, hn, if_false]

theorem lower_of_lt (h : n < current) (hn : c.minReplicas ≤ n) :
    c.lower current n = .set n (.scaledDown current n) := by
  have hc : ¬ current ≤ n := by grind
  have hm : ¬ n < c.minReplicas := by grind
  simp only [lower, hc, hm, if_false]

/-- A count that going up sets is above the current one and not above the maximum. -/
theorem raise_eq_set (h : c.raise current n = .set m a) :
    m = n ∧ current < n ∧ n ≤ c.maxReplicas ∧ a = .scaledUp current n := by
  rw [raise] at h
  split at h
  · cases h
  · split at h
    · cases h
    · cases h
      exact ⟨rfl, by grind, by grind, rfl⟩

/-- A count that going down sets is below the current one and not below the minimum. -/
theorem lower_eq_set (h : c.lower current n = .set m a) :
    m = n ∧ n < current ∧ c.minReplicas ≤ n ∧ a = .scaledDown current n := by
  rw [lower] at h
  split at h
  · cases h
  · split at h
    · cases h
    · cases h
      exact ⟨rfl, by grind, by grind, rfl⟩

/-- The target that a scale-down heads for: no less than the minimum. -/
def floored (c : ScalerConfig) (target : Int32) : Int32 := max target c.minReplicas

/-- The target is below the current count by enough for a scale-down. -/
def Drops (c : ScalerConfig) (threshold : Float) (current target : Int32) : Prop :=
  c.floored target < current ∧ ¬ relativeDrop current (c.floored target) < threshold

/-- The current count is neither below the target nor above the floored one. -/
def Level (c : ScalerConfig) (current target : Int32) : Prop :=
  target ≤ current ∧ current ≤ c.floored target

end ScalerConfig

namespace Scaler

/-- What a scaler may do about a target: the scaler afterwards and what is decided. -/
inductive Course (s : Scaler) (now : Nat) (d : ScaleDown) (current target : Int32) :
    Scaler → Decision → Prop where
  | raised (above : current < target) (fits : target ≤ s.config.maxReplicas) :
      Course s now d current target s.resetWindow (.set target (.scaledUp current target))
  | refused (above : current < target) (exceeds : s.config.maxReplicas < target) :
      Course s now d current target s.resetWindow
        (.settled (.ok (.refused target s.config.maxReplicas)))
  | level (notAbove : target ≤ current) (notBelow : current ≤ s.config.floored target) :
      Course s now d current target s.resetWindow (.settled (.ok (.unchanged current)))
  | slight (below : s.config.floored target < current)
      (small : ScalerConfig.relativeDrop current (s.config.floored target) < d.threshold) :
      Course s now d current target s.resetWindow (.settled (.ok (.unchanged current)))
  | held (drops : s.config.Drops d.threshold current target)
      (early : now - s.belowSince.getD now < d.duration.millis) :
      Course s now d current target { s with belowSince := some (s.belowSince.getD now) }
        (.settled (.ok (.deferred (s.config.floored target) current)))
  | lowered (drops : s.config.Drops d.threshold current target)
      (due : d.duration.millis ≤ now - s.belowSince.getD now) :
      Course s now d current target s.resetWindow
        (.set (s.config.floored target) (.scaledDown current (s.config.floored target)))

/-- Every decision takes one of the courses. -/
theorem course_decide (s : Scaler) (now : Nat) (d : ScaleDown) (current target : Int32) :
    Course s now d current target (s.decide now d current target).1
      (s.decide now d current target).2 := by
  rw [decide]
  split
  · next above =>
    rw [ScalerConfig.raise_of_lt above]
    split
    · next exceeds => exact .refused above exceeds
    · next fits => exact .raised above (by grind)
  · next notAbove =>
    dsimp only
    split
    · next notBelow => exact .level (by grind) notBelow
    · next below =>
      have below : s.config.floored target < current := by
        simpa only [ScalerConfig.floored, Int32.not_le] using below
      split
      · next small => exact .slight below small
      · next large =>
        split
        · next early => exact .held ⟨below, large⟩ early
        · next late =>
          have hlower := ScalerConfig.lower_of_lt (c := s.config) below (word_le_max_right _ _)
          rw [ScalerConfig.floored] at hlower
          rw [hlower]
          exact .lowered ⟨below, large⟩ (Nat.le_of_not_lt late)

/-- A count that is level with the target stays. -/
theorem decide_of_level (s : Scaler) (now : Nat) (d : ScaleDown) {current target : Int32}
    (level : s.config.Level current target) :
    s.decide now d current target = (s.resetWindow, .settled (.ok (.unchanged current))) := by
  obtain ⟨notAbove, notBelow⟩ := level
  have habove : ¬ current < target := by grind
  rw [ScalerConfig.floored] at notBelow
  simp only [decide, habove, notBelow, if_false, if_true]

/-- A drop that is large enough is held back until the window is old enough. -/
theorem decide_of_drops (s : Scaler) (now : Nat) (d : ScaleDown) {current target : Int32}
    (drops : s.config.Drops d.threshold current target) :
    s.decide now d current target =
      if now - s.belowSince.getD now < d.duration.millis then
        ({ s with belowSince := some (s.belowSince.getD now) },
          .settled (.ok (.deferred (s.config.floored target) current)))
      else
        (s.resetWindow,
          .set (s.config.floored target) (.scaledDown current (s.config.floored target))) := by
  obtain ⟨below, large⟩ := drops
  have hlower := ScalerConfig.lower_of_lt (c := s.config) below (word_le_max_right _ _)
  rw [ScalerConfig.floored] at below large hlower ⊢
  have habove : ¬ current < target := by grind
  have hbelow : ¬ current ≤ max target s.config.minReplicas := by grind
  simp only [decide, habove, hbelow, large, hlower, if_false]

/-- Without a delay a decision depends neither on the window nor on the time. -/
theorem decide_snd_of_instant {s s' : Scaler} {d : ScaleDown} (config : s'.config = s.config)
    (instant : d.duration.millis = 0) (now now' : Nat) (current target : Int32) :
    (s'.decide now' d current target).2 = (s.decide now d current target).2 := by
  simp only [decide]
  simp only [config, instant, Nat.not_lt_zero, if_false]
  split
  · rfl
  · split
    · rfl
    · split <;> rfl

/-- No course touches the settings. -/
theorem Course.config_eq {s t : Scaler} {now : Nat} {d : ScaleDown} {current target : Int32}
    {x : Decision} (h : Course s now d current target t x) : t.config = s.config := by
  cases h <;> rfl

/-- A count that was set for a target is level with it. -/
theorem level_of_set {s : Scaler} {d : ScaleDown} {now : Nat} {current target n : Int32}
    {a : ScaleAction} (h : (s.decide now d current target).2 = .set n a) :
    s.config.Level n target := by
  have hfloor : target ≤ s.config.floored target := by
    rw [ScalerConfig.floored]
    grind
  have course := course_decide s now d current target
  rw [h] at course
  generalize (s.decide now d current target).1 = t at course
  cases course with
  | raised _ _ => exact ⟨by grind, hfloor⟩
  | lowered _ _ => exact ⟨hfloor, by grind⟩

/-- At a count that was set for a target nothing is set for that target any more. -/
theorem decide_settled_of_set {s s' : Scaler} {d d' : ScaleDown} {now now' : Nat}
    {current target n : Int32} {a : ScaleAction} (config : s'.config = s.config)
    (h : (s.decide now d current target).2 = .set n a) :
    (s'.decide now' d' n target).2 = .settled (.ok (.unchanged n)) := by
  have level := level_of_set h
  rw [← config] at level
  rw [decide_of_level s' now' d' level]

end Scaler

end PredictiveScaling
