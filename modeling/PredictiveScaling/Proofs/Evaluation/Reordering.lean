import PredictiveScaling.Proofs.Evaluation.Isolation

/-!
# The order of a tick

A tick visits its predictors in the order in which they are enumerated, and their forecasts are
done with in any order at all. Neither shows: in the same surroundings two ticks over the same
predictors hand the same goal to the scaler, report the same and set the same counts
(`Tick.same_in_any_order`). The goal itself is a function of the results whatever their order.
-/
namespace PredictiveScaling

/-! ## Rounds that never had a goal -/

/-- If the round has ended, it was without a target. -/
def Evaluation.Aimless (e : Evaluation) : Prop := ∀ report ∈ e.report?, report.target = none

namespace Stage

variable {s : Stage} {e e' : Evaluation} {i : Nat} {p : Prediction} {forecast : Option Forecast}

/-- A round is settled with a goal, or else without a target. -/
theorem aimless_settled (aimless : e.Aimless) (after : (s.settled e).goal? = none) :
    (s.settled e).Aimless := by
  rw [settled] at after ⊢
  split at after
  · next complete =>
    rw [if_pos complete]
    simp only [aimed, Evaluation.withGoal] at after ⊢
    split at after
    · cases after
    · rintro report ⟨⟩
      rfl
  · next incomplete =>
    rw [if_neg incomplete]
    exact aimless

theorem aimless_received (aimless : e.Aimless)
    (after : (s.received e i p forecast).goal? = none) :
    (s.received e i p forecast).Aimless := by
  simp only [received] at after ⊢
  cases forecast with
  | none => exact aimless_settled aimless after
  | some f =>
    dsimp only at after ⊢
    split at after
    · next reads =>
      rw [if_pos reads]
      exact aimless
    · next reads =>
      rw [if_neg reads]
      exact aimless_settled aimless after

theorem Visits.aimless {l : List (String × Nat)} (hv : s.Visits e l e') (aimless : e.Aimless)
    (after : e'.goal? = none) : e'.Aimless := by
  cases hv with
  | all => exact aimless_settled aimless after
  | suspended _ _ _ => rintro report ⟨⟩

end Stage

/-- A round that advances without ever getting a goal gets no target. -/
theorem Controller.Advances.aimless {c : Controller} {id : Nat} {x : Happening} {scaler : Scaler}
    {e e' : Evaluation} {issued : List Int32} (how : c.Advances id e x scaler e' issued)
    (before : e.goal? = none) (after : e'.goal? = none) (aimless : e.Aimless) : e'.Aimless := by
  have hgoal : ∀ {goal : Goal}, e.goal? ≠ some goal := by
    intro goal h
    cases before.symm.trans h
  cases how with
  | abandoned => rintro report ⟨⟩
  | brings _ _ _ _ => exact Stage.aimless_received (s := c.stage) aimless after
  | asks _ _ _ _ => exact aimless
  | answers _ _ _ => exact Stage.aimless_received (s := c.stage) aimless after
  | counts _ _ _ => exact Stage.aimless_settled (s := c.stage) aimless after
  | resumes _ visits => exact visits.aimless (by rintro report ⟨⟩) after
  | unread reading => exact absurd (by rw [Evaluation.goal?, reading]) hgoal
  | rests reading _ => exact absurd (by rw [Evaluation.goal?, reading]) hgoal
  | sets reading _ => exact absurd (by rw [Evaluation.goal?, reading]) hgoal
  | ends setting => exact absurd (by rw [Evaluation.goal?, setting]) hgoal

/-! ## The goal of a tick -/

namespace Surroundings

variable {u : Surroundings} {id : Nat} {s : Controller × List Call}
  {xs : List (Moment × Happening)}

/-- What is met all along is met up to any moment. -/
theorem MeetsAlong.take (h : u.MeetsAlong id s xs) (n : Nat) :
    u.MeetsAlong id s (xs.take n) := by
  induction xs generalizing s n with
  | nil => rwa [List.take_nil]
  | cons x xs ih =>
    cases n with
    | zero => trivial
    | succ n => exact ⟨h.1, ih h.2 n⟩

end Surroundings

namespace Tick

variable {t t' : Tick} {u : Surroundings} {goal : Goal}

/-- The tick up to some moment. -/
def upTo (t : Tick) (n : Nat) : Tick := { t with course := t.course.take n }

/-- At some moment of the tick the scaler is to move towards this goal. -/
def Hands (t : Tick) (goal : Goal) : Prop := ∃ n, ∃ e ∈ (t.upTo n).round?, e.goal? = some goal

theorem surround_upTo (around : u.Surround t) (n : Nat) : u.Surround (t.upTo n) :=
  ⟨around.1, Surroundings.MeetsAlong.take around.2 n⟩

/-- A tick hands over no goal but that of its surroundings. -/
theorem goal?_of_hands (around : u.Surround t) (hands : t.Hands goal) :
    u.goal? t.start.scaler.config t.start.store.predictors.toList = some goal := by
  obtain ⟨n, e, round, hgoal⟩ := hands
  obtain ⟨e', scaler, round', _, h⟩ := (t.upTo n).exists_stands (surround_upTo around n)
  obtain rfl : e = e' := Option.some.inj (round.symm.trans round')
  rw [Evaluation.Stands] at h
  rw [Evaluation.goal?] at hgoal
  cases hphase : e.phase <;> rw [hphase] at h hgoal <;> cases hgoal
  case reading => exact h.1
  case setting => exact h.1

/-- A tick that never hands over a goal comes to no target. -/
theorem target_eq_none_of_not_hands (never : ∀ goal, ¬ t.Hands goal)
    {report : EvaluationReport} (ended : t.report? = some report) : report.target = none := by
  have hnone : ∀ n, ∀ e ∈ (t.upTo n).round?, e.goal? = none := by
    intro n e round
    cases hgoal : e.goal? with
    | none => rfl
    | some goal => exact absurd ⟨n, e, round, hgoal⟩ (never goal)
  have aimless : ∀ n, ∃ e ∈ (t.upTo n).round?, e.Aimless := by
    intro n
    induction n with
    | zero =>
      obtain ⟨e, found, _, _, _, visits⟩ := t.stage_begun
      exact ⟨e, found, visits.aimless (by rintro report ⟨⟩) (hnone 0 e found)⟩
    | succ n ih =>
      obtain ⟨e, found, aimless⟩ := ih
      cases hx : t.course[n]? with
      | none =>
        have hsame : t.upTo (n + 1) = t.upTo n := by
          rw [upTo, upTo, List.take_add_one, hx, Option.toList_none, List.append_nil]
        exact ⟨e, hsame ▸ found, aimless⟩
      | some x =>
        have hreached : (t.upTo (n + 1)).reached = Controller.pass (t.upTo n).reached x := by
          rw [reached, upTo, List.take_add_one, hx, Option.toList_some, List.foldl_append]
          rfl
        obtain ⟨e', _, found', _, ⟨rfl, _⟩ | ⟨scaler, how⟩⟩ := stays_or_advances (x := x) found
        · exact ⟨e', (congrArg (·.1.evaluations.get? t.id) hreached).trans found', aimless⟩
        · have round' : (t.upTo (n + 1)).round? = some e' :=
            (congrArg (·.1.evaluations.get? t.id) hreached).trans found'
          exact ⟨e', round', how.aimless (hnone n e found) (hnone (n + 1) e' round') aimless⟩
  obtain ⟨e, round, aimless⟩ := aimless t.course.length
  rw [upTo, List.take_length] at round
  refine aimless report ?_
  rw [report?, round, Option.bind_some] at ended
  exact ended

/-- A tick hands over the goal of its surroundings, if there is one. -/
theorem hands_iff (around : u.Surround t) (complete : t.Complete) : t.Hands goal ↔
    u.goal? t.start.scaler.config t.start.store.predictors.toList = some goal := by
  refine ⟨goal?_of_hands around, fun hgoal => ?_⟩
  by_contra hands
  have never : ∀ other, ¬ t.Hands other := by
    intro other hother
    obtain rfl := Option.some.inj (hgoal.symm.trans (goal?_of_hands around hother))
    exact hands hother
  obtain ⟨report, ended, houtcome⟩ := t.exists_report?_of_complete around complete
  have hnone := target_eq_none_of_not_hands never ended
  have hreport : report.target = some goal.target := by
    rw [Surroundings.outcome, hgoal] at houtcome
    exact congrArg (fun x : EvaluationReport × List Int32 => x.1.target) houtcome
  rw [hreport] at hnone
  cases hnone

end Tick

/-! ## Another order -/

namespace KeyMap

variable {κ α : Type} [DecidableEq κ]

/-- The same map, its entries the other way round. -/
def reverse (m : KeyMap κ α) : KeyMap κ α :=
  ⟨m.entries.reverse, by rw [List.map_reverse]; exact List.nodup_reverse.2 m.nodup_keys⟩

theorem find?_reverse (m : KeyMap κ α) (k : κ) : m.reverse.find? k = m.find? k := by
  apply Option.ext
  intro v
  rw [← mem_entries_iff, ← mem_entries_iff]
  exact List.mem_reverse

end KeyMap

namespace Surroundings

variable {u : Surroundings} {predictors predictors' : List (String × Nat)}

theorem results_perm (config : ScalerConfig) (h : predictors.Perm predictors') :
    (u.results config predictors).Perm (u.results config predictors') :=
  (h.filterMap _).filterMap _

theorem goal?_perm (config : ScalerConfig) (h : predictors.Perm predictors') :
    u.goal? config predictors = u.goal? config predictors' :=
  Goal.ofFound?_perm (results_perm config h)

/-- What a tick comes to does not depend on the order of its predictors. -/
theorem outcome_perm (scaler : Scaler) (h : predictors.Perm predictors') :
    u.outcome scaler predictors = u.outcome scaler predictors' := by
  rw [outcome, outcome, goal?_perm scaler.config h, (results_perm scaler.config h).length_eq]

end Surroundings

namespace Tick

variable {t t' : Tick} {u : Surroundings}

/-- Two ticks in the same surroundings, with the same scaler and over the same predictors, in
whatever order these are enumerated and their forecasts are done with: both come to the same
report, set the same counts and hand the same goal to the scaler, settings for scaling down
included. Results in another order have the same goal. -/
theorem same_in_any_order (scaler : t'.start.scaler = t.start.scaler)
    (predictors : ∀ key, t'.start.store.predictors.find? key = t.start.store.predictors.find? key)
    (around : u.Surround t) (around' : u.Surround t')
    (complete : t.Complete) (complete' : t'.Complete) :
    (∃ report, t.report? = some report ∧ t'.report? = some report) ∧ t'.issued = t.issued ∧
      (∀ goal, t'.Hands goal ↔ t.Hands goal) ∧
      ∀ (config : ScalerConfig) (metrics : KeyMap String Metric)
        (results results' : List PredictorResult), results.Perm results' →
          Goal.ofResults? config metrics results' = Goal.ofResults? config metrics results := by
  have hperm : t'.start.store.predictors.toList.Perm t.start.store.predictors.toList :=
    KeyMap.entries_perm predictors
  obtain ⟨report, ended, houtcome⟩ := t.exists_report?_of_complete around complete
  obtain ⟨report', ended', houtcome'⟩ := t'.exists_report?_of_complete around' complete'
  have hsame : (report', t'.issued) = (report, t.issued) := by
    rw [houtcome, houtcome', scaler, Surroundings.outcome_perm t.start.scaler hperm]
  obtain ⟨rfl, hissued⟩ := Prod.ext_iff.1 hsame
  refine ⟨⟨report', ended, ended'⟩, hissued, ?_, fun _ _ _ _ h => (Goal.ofResults?_perm h).symm⟩
  intro goal
  rw [hands_iff around complete, hands_iff around' complete', scaler,
    Surroundings.goal?_perm t.start.scaler.config hperm]

/-! ### Two predictors -/

/-- The same, with the predictors enumerated the other way round. -/
def otherWayRound (c : Controller) : Controller :=
  { c with store := { c.store with predictors := c.store.predictors.reverse } }

/-- Once `cpu` is visited and done with first, and once `memory` is. -/
theorem same_in_any_order_of_two :
    let c := withModels ["cpu", "memory"]
    let t := atOnce c (forecastMade 0 ++ forecastMade 1 ++ goalReached)
    let t' := atOnce (otherWayRound c) (forecastMade 0 ++ forecastMade 1 ++ goalReached)
    t.round?.map (·.results.map PredictorResult.key) =
        some ["cpu$$q$holt_winters", "memory$$q$holt_winters"] ∧
      t'.round?.map (·.results.map PredictorResult.key) =
        some ["memory$$q$holt_winters", "cpu$$q$holt_winters"] ∧
      t.report? = some ⟨2, some 4, some (.scaledUp 2 4)⟩ ∧ t'.report? = t.report? ∧
      t'.issued = t.issued ∧ ∃ goal, t.Hands goal ∧ t'.Hands goal ∧ goal.target = 4 := by
  intro c t t'
  let u := (Answers.ofCount (forecastAtHand c) 2).within c 0
  have around : u.Surround t := by decide +kernel
  have around' : u.Surround t' := by decide +kernel
  have scaler : t'.start.scaler = t.start.scaler := rfl
  have predictors : ∀ key, t'.start.store.predictors.find? key =
      t.start.store.predictors.find? key := c.store.predictors.find?_reverse
  obtain ⟨⟨report, ended, ended'⟩, sets, hands, _⟩ := same_in_any_order scaler predictors
    around around' (by decide +kernel) (by decide +kernel)
  have four : ((t.upTo 4).round?.bind Evaluation.goal?).map Goal.target = some 4 := by
    decide +kernel
  obtain ⟨goal, hgoal, htarget⟩ := Option.map_eq_some_iff.1 four
  obtain ⟨e, round, hgoal⟩ := Option.bind_eq_some_iff.1 hgoal
  have handed : t.Hands goal := ⟨4, e, round, hgoal⟩
  exact ⟨by decide +kernel, by decide +kernel, by decide +kernel, ended'.trans ended.symm, sets,
    goal, handed, (hands goal).2 handed, htarget⟩

end Tick

end PredictiveScaling
