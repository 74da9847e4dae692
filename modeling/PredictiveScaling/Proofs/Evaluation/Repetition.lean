import PredictiveScaling.Proofs.Evaluation.Aim
import PredictiveScaling.Proofs.Evaluation.Protection

/-!
# Repeating a tick

A tick that is repeated at the count that the first one has left, with the same forecasts
and without any delay for scaling down, sets nothing more if it comes to the same target.
It does so where counts are taken from the targets of the metrics, and where the first tick
has set nothing. Where they are taken in proportion to the current count, the changed count
may lead to another target, and the same forecast is followed twice.
-/
namespace PredictiveScaling

namespace Answers

variable {forecast : String → Option Forecast} {n m : Int32} {config : ScalerConfig}
  {goal : Goal} {issued issued' : List Int32}

/-- Counts that are taken from the targets of the metrics do not depend on the current one. -/
theorem goal?_ofCount_of_underThreshold (base : config.baseStrategy = .underThreshold)
    (x : Installed) (predictors : List (String × Nat)) :
    (ofCount forecast n).goal? config x predictors =
      (ofCount forecast m).goal? config x predictors := by
  have hcounts : ∀ p, (ofCount forecast n).counts? config p =
      (ofCount forecast m).counts? config p := by
    intro p
    simp only [counts?, base, BaseStrategy.readsCurrent, Bool.false_eq_true, if_false, ofCount]
  have hresult : (ofCount forecast n).result? config = (ofCount forecast m).result? config := by
    funext p
    rw [result?, result?, hcounts]
  rw [goal?, goal?, hresult]

/-- What is decided at one and the same count without a delay is decided again. -/
theorem Decides.again (h : (ofCount forecast n).Decides config goal issued)
    (h' : (ofCount forecast n).Decides config goal issued')
    (instant : goal.scaleDown.duration = .zero) : issued' = issued := by
  obtain ⟨s, now, hs, rfl⟩ := h
  obtain ⟨s', now', hs', rfl⟩ := h'
  have hmillis : goal.scaleDown.duration.millis = 0 := by rw [instant]; rfl
  rw [Scaler.decide_snd_of_instant (hs'.trans hs.symm) hmillis now now']

/-- After a count was set, nothing more is set for the same target. -/
theorem Decides.nothing_after {goal' : Goal}
    (h : (ofCount forecast n).Decides config goal issued) (set : issued ≠ [])
    (h' : (ofCount forecast (issued.getLastD n)).Decides config goal' issued')
    (target : goal'.target = goal.target) : issued' = [] := by
  obtain ⟨s, now, hs, rfl⟩ := h
  obtain ⟨s', now', hs', rfl⟩ := h'
  cases hdecided : (s.decide now goal.scaleDown n goal.target).2 with
  | settled result =>
    rw [hdecided] at set
    exact absurd rfl set
  | set k action =>
    have hsettled : (s'.decide now' goal'.scaleDown k goal.target).2 =
        .settled (.ok (.unchanged k)) :=
      Scaler.decide_settled_of_set (hs'.trans hs.symm) hdecided
    rw [target]
    simp only [Decision.issued, List.getLastD_cons, List.getLastD_nil, hsettled]

end Answers

namespace Tick

variable {first second : Tick} {forecast : String → Option Forecast} {n : Int32} {w : Answers}

/-- The count that the tick leaves, if it was `n` before and only the tick changes it. -/
def left (t : Tick) (n : Int32) : Int32 := t.issued.getLastD n

theorem aim?_congr (config : second.start.scaler.config = first.start.scaler.config)
    (agree : second.start.store.installed.Agree first.start.store.installed) :
    second.aim? w = first.aim? w := by
  rw [aim?, config]
  exact Answers.goal?_congr agree

theorem instant_of_aim? {goal : Goal} (aim : first.aim? w = some goal)
    (instant : ∀ k m, first.start.store.metrics.find? k = some m → m.scaleDown.duration = .zero) :
    goal.scaleDown.duration = .zero := by
  have hle : goal.scaleDown.duration ≤ .zero := by
    rcases (Goal.le_duration_iff aim).1 (Nat.le_refl _) with h | ⟨_, _, k, m, _, found, h⟩
    · exact h
    · rwa [instant k m found] at h
  have hmillis : goal.scaleDown.duration.millis = 0 := Nat.le_zero.1 hle
  cases hd : goal.scaleDown.duration with
  | mk millis =>
    rw [hd] at hmillis
    dsimp only at hmillis
    rw [hmillis]
    rfl

theorem left_of_issued_eq_nil (h : first.issued = []) : first.left n = n := by
  rw [left, h]
  rfl

/-- The second tick has the goal of the first one where that does not depend on the count, or
where the count has stayed. -/
theorem aim?_again (config : second.start.scaler.config = first.start.scaler.config)
    (agree : second.start.store.installed.Agree first.start.store.installed)
    (same : first.start.scaler.config.baseStrategy = .underThreshold ∨ first.issued = []) :
    second.aim? (.ofCount forecast (first.left n)) = first.aim? (.ofCount forecast n) := by
  rw [aim?_congr config agree]
  rcases same with base | hissued
  · exact Answers.goal?_ofCount_of_underThreshold base _ _
  · rw [left_of_issued_eq_nil hissued]

/-- The second tick sets nothing on its way to the target of the first one. -/
theorem issued_eq_nil_of_same_target
    (config : second.start.scaler.config = first.start.scaler.config)
    (agree : second.start.store.installed.Agree first.start.store.installed)
    (instant : ∀ k m, first.start.store.metrics.find? k = some m → m.scaleDown.duration = .zero)
    {goal goal' : Goal} (aim : first.aim? (.ofCount forecast n) = some goal)
    (aim' : second.aim? (.ofCount forecast (first.left n)) = some goal')
    (decides : (Answers.ofCount forecast n).Decides first.start.scaler.config goal first.issued)
    (decides' : (Answers.ofCount forecast (first.left n)).Decides second.start.scaler.config goal'
      second.issued)
    (target : goal'.target = goal.target) : second.issued = [] := by
  rw [config] at decides'
  by_cases hissued : first.issued = []
  · -- the count has stayed, and with it the whole goal
    rw [aim?_again config agree (.inr hissued), aim] at aim'
    obtain rfl : goal = goal' := Option.some.inj aim'
    rw [left_of_issued_eq_nil hissued] at decides'
    rw [decides.again decides' (instant_of_aim? aim instant), hissued]
  · exact decides.nothing_after hissued decides' target

/-- A tick at the count that the first one has left, with the same settings, the same things
installed and the same forecasts, and without delays. If counts are taken from the targets of
the metrics, or if the first tick has set nothing, it comes to the same target and sets
nothing. In any case it sets nothing if it comes to the same target. -/
theorem issues_nothing_again (config : second.start.scaler.config = first.start.scaler.config)
    (agree : second.start.store.installed.Agree first.start.store.installed)
    (calm : first.Undisturbed) (calm' : second.Undisturbed)
    (fit : (Answers.ofCount forecast n).Fit first)
    (fit' : (Answers.ofCount forecast (first.left n)).Fit second)
    (instant : ∀ k m, first.start.store.metrics.find? k = some m → m.scaleDown.duration = .zero)
    {report : EvaluationReport} (ended : first.report? = some report) :
    (first.start.scaler.config.baseStrategy = .underThreshold ∨ first.issued = [] →
      second.issued = [] ∧
        ∀ report', second.report? = some report' → report'.target = report.target) ∧
    (∀ report', second.report? = some report' → report'.target = report.target →
      second.issued = []) := by
  obtain ⟨htarget, hattempts⟩ := first.target_of_report? fit calm ended
  constructor
  · intro same
    have haim : second.aim? (.ofCount forecast (first.left n)) =
        first.aim? (.ofCount forecast n) := aim?_again config agree same
    constructor
    · rcases second.issued_eq_nil_or_attempts fit' calm' with h | hattempts'
      · exact h
      · cases aim : first.aim? (.ofCount forecast n) with
        | none =>
          rw [haim, aim] at hattempts'
          exact hattempts'
        | some goal =>
          rw [aim] at hattempts
          rw [haim, aim] at hattempts'
          exact issued_eq_nil_of_same_target config agree instant aim (haim.trans aim) hattempts
            hattempts' rfl
    · intro report' ended'
      obtain ⟨htarget', _⟩ := second.target_of_report? fit' calm' ended'
      rw [htarget', htarget, haim]
  · intro report' ended' hsame
    obtain ⟨htarget', hattempts'⟩ := second.target_of_report? fit' calm' ended'
    rw [htarget', htarget] at hsame
    cases aim' : second.aim? (.ofCount forecast (first.left n)) with
    | none =>
      rw [aim'] at hattempts'
      exact hattempts'
    | some goal' =>
      rw [aim'] at hattempts' hsame
      obtain ⟨goal, aim, target⟩ := Option.map_eq_some_iff.1 hsame.symm
      rw [aim] at hattempts
      exact issued_eq_nil_of_same_target config agree instant aim aim' hattempts hattempts'
        target.symm

/-! ## Two ticks on one metric -/

/-- One metric, the next value of which is expected to be twice the last one. -/
def onPair (base : BaseStrategy) : Controller :=
  withHistory (Controller.new "controller" ⟨"default", "web", "deployment"⟩
    ⟨1, 20, base, .max, .selectMax⟩ .default) ⟨"cpu", "", "q", 1.0, 100, .none⟩ [2, 1, 2, 1]

/-- The only forecast of a round is made, and counts are read and set. -/
def atCount (c : Controller) (count : Int32) : Tick :=
  ⟨c, none, ⟨0, 0⟩, [.predictionStarts c.nextEvaluation 0,
    .predictionCount c.nextEvaluation 0 (.ok count), .goalCount c.nextEvaluation (.ok count),
    .goalSet c.nextEvaluation (.ok ())].map fun event => (⟨0, 0⟩, .event event)⟩

theorem undisturbed_atCount (c : Controller) (count : Int32) : (atCount c count).Undisturbed := by
  intro x hx
  obtain ⟨event, _, rfl⟩ := List.mem_map.1 hx
  trivial

theorem agree_reached (calm : first.Undisturbed) :
    first.reached.1.store.installed.Agree first.start.store.installed := by
  rw [first.installed_reached calm]
  exact ⟨fun _ => rfl, fun _ => rfl, fun _ => rfl⟩

theorem instant_onPair (base : BaseStrategy) : ∀ k m,
    (onPair base).store.metrics.find? k = some m → m.scaleDown.duration = .zero := by
  intro k m h
  have hall : ∀ x ∈ (onPair base).store.metrics.entries, x.2.scaleDown.duration = .zero := by
    cases base <;> decide +kernel
  exact hall (k, m) (KeyMap.find?_mem h)

/-- Under the targets of the metrics, one replica becomes two, and then nothing more is set. -/
theorem issues_nothing_again_onPair :
    let first := atCount (onPair .underThreshold) 1
    let second := atCount first.reached.1 2
    first.issued = [2] ∧ second.issued = [] ∧
      second.report?.map EvaluationReport.target = first.report?.map EvaluationReport.target := by
  intro first second
  have calm : first.Undisturbed := undisturbed_atCount _ _
  have fit : (Answers.ofCount (forecastAtHand first.start) 1).Fit first := by decide +kernel
  have fit' : (Answers.ofCount (forecastAtHand first.start) (first.left 1)).Fit second := by
    decide +kernel
  have ended : first.report? = some ⟨1, some 2, some (.scaledUp 1 2)⟩ := by decide +kernel
  have ended' : second.report? = some ⟨1, some 2, some (.unchanged 2)⟩ := by decide +kernel
  have config : second.start.scaler.config = first.start.scaler.config := first.config_reached
  have hagain := issues_nothing_again config (agree_reached calm) calm
    (undisturbed_atCount _ _) fit fit' (instant_onPair .underThreshold) ended
  obtain ⟨nothing, same⟩ := hagain.1 (.inl (by decide +kernel))
  refine ⟨by decide +kernel, nothing, ?_⟩
  rw [ended, ended', Option.map_some, Option.map_some, same _ ended']

/-- In proportion to the current count, two replicas become four, and then eight. -/
theorem issues_again_with_steady :
    let first := atCount (onPair .steady) 2
    let second := atCount first.reached.1 4
    second.start.scaler.config = first.start.scaler.config ∧
      second.start.store.installed.Agree first.start.store.installed ∧
      first.Undisturbed ∧ second.Undisturbed ∧
      (Answers.ofCount (forecastAtHand first.start) 2).Fit first ∧
      (Answers.ofCount (forecastAtHand first.start) (first.left 2)).Fit second ∧
      (∀ k m, first.start.store.metrics.find? k = some m → m.scaleDown.duration = .zero) ∧
      first.report? = some ⟨1, some 4, some (.scaledUp 2 4)⟩ ∧ first.issued = [4] ∧
      second.report? = some ⟨1, some 8, some (.scaledUp 4 8)⟩ ∧ second.issued = [8] := by
  intro first second
  have calm : first.Undisturbed := undisturbed_atCount _ _
  exact ⟨first.config_reached, agree_reached calm, calm, undisturbed_atCount _ _,
    by decide +kernel, by decide +kernel, instant_onPair .steady,
    by decide +kernel, by decide +kernel, by decide +kernel, by decide +kernel⟩

end Tick

end PredictiveScaling
