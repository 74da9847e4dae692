import Mathlib.Data.List.Nodup
import PredictiveScaling.Proofs.Evaluation.Outcome

/-!
# What an undisturbed tick aims at

Where nothing is installed or removed during a tick, its goal is known in advance: it is
that of the results of all predictors that were registered at the beginning and whose model
and metric are installed, and it does not depend on the order in which they come in. The
scaler decides about it at most once, so no more than one count is set, and that is the
count of its decision.
-/
namespace PredictiveScaling

/-- The counts that a decision asks to set. -/
def Decision.issued : Decision → List Int32
  | .settled _ => []
  | .set n _ => [n]

/-- The forecast as it was when it was visited. -/
def Prediction.fresh (p : Prediction) : Prediction := { p with phase := .pending }

/-- The goal of a tick over some predictors, if nothing disturbs it. -/
def Answers.goal? (w : Answers) (config : ScalerConfig) (x : Installed)
    (predictors : List (String × Nat)) : Option Goal :=
  Goal.ofResults? config x.metrics ((x.visited predictors).filterMap (w.result? config))

/-- A scaler with these settings decides to set these counts. -/
def Answers.Decides (w : Answers) (config : ScalerConfig) (goal : Goal) (issued : List Int32) :
    Prop :=
  match w.goalReading with
  | .error _ => issued = []
  | .ok current => ∃ (s : Scaler) (now : Nat), s.config = config ∧
      issued = (s.decide now goal.scaleDown current goal.target).2.issued

/-- The counts are set in the attempt at a goal, if there is one. -/
def Answers.Attempts (w : Answers) (config : ScalerConfig) (goal? : Option Goal)
    (issued : List Int32) : Prop :=
  match goal? with
  | none => issued = []
  | some goal => w.Decides config goal issued

/-! ## What the goal depends on -/

/-- Maps in which the same is found have the same entries, up to their order. -/
theorem KeyMap.entries_perm {κ α : Type} [DecidableEq κ] {m m' : KeyMap κ α}
    (h : ∀ k, m.find? k = m'.find? k) : m.entries.Perm m'.entries := by
  refine (List.perm_ext_iff_of_nodup (List.Nodup.of_map _ m.nodup_keys)
    (List.Nodup.of_map _ m'.nodup_keys)).2 ?_
  rintro ⟨k, v⟩
  rw [KeyMap.mem_entries_iff, KeyMap.mem_entries_iff, h]

/-- The same is installed under each key. -/
structure Installed.Agree (x y : Installed) : Prop where
  metrics : ∀ k, x.metrics.find? k = y.metrics.find? k
  models : ∀ k, x.models.find? k = y.models.find? k
  predictors : ∀ k, x.predictors.find? k = y.predictors.find? k

/-- The goal depends neither on the order of the predictors nor on that of anything else. -/
theorem Answers.goal?_congr {w : Answers} {config : ScalerConfig} {x y : Installed}
    (agree : x.Agree y) :
    w.goal? config x x.predictors.toList = w.goal? config y y.predictors.toList := by
  have hmetricFor : ∀ key, x.metricFor? key = y.metricFor? key := by
    intro key
    simp only [Installed.metricFor?]
    simp only [agree.models, agree.metrics]
  have hvisited : (x.visited x.predictors.toList).Perm (y.visited y.predictors.toList) := by
    rw [Installed.visited]
    simp only [hmetricFor]
    exact (KeyMap.entries_perm agree.predictors).filterMap _
  rw [goal?, goal?, Goal.ofResults?_perm (hvisited.filterMap _),
    Goal.ofResults?_congr agree.metrics]

namespace Evaluation

/-- How far a round over some predictors has come, and which counts were set for it. -/
def Progress (w : Answers) (config : ScalerConfig) (x : Installed)
    (predictors : List (String × Nat)) (e : Evaluation) (issued : List Int32) : Prop :=
  match e.phase with
  | .dispatching _ _ _ rest =>
    e.predictions.map Prediction.fresh ++ x.visited rest = x.visited predictors ∧ issued = []
  | .joining => e.predictions.map Prediction.fresh = x.visited predictors ∧ issued = []
  | .reading goal => w.goal? config x predictors = some goal ∧ issued = []
  | .setting goal _ => w.goal? config x predictors = some goal ∧ w.Decides config goal issued
  | .ended report =>
    report.target = (w.goal? config x predictors).map Goal.target ∧
      w.Attempts config (w.goal? config x predictors) issued
  | .abandoned => issued = [] ∨ w.Attempts config (w.goal? config x predictors) issued

variable {w : Answers} {config : ScalerConfig} {x : Installed} {predictors : List (String × Nat)}
  {e e' : Evaluation} {i : Nat} {p : Prediction} {issued : List Int32}

/-- The goal of the results that have come in is the one that was to be expected. -/
theorem ofResults?_eq_goal? (follows : e.Follows w config)
    (complete : e.predictions.all Prediction.isDone = true)
    (visited : e.predictions.map Prediction.fresh = x.visited predictors) :
    Goal.ofResults? config x.metrics e.results = w.goal? config x predictors := by
  have hall : e.predictions.filter Prediction.isDone = e.predictions :=
    List.filter_eq_self.2 (List.all_eq_true.1 complete)
  have hresults := follows.results
  rw [hall] at hresults
  rw [Answers.goal?, ← visited, List.filterMap_map, Goal.ofResults?_perm hresults]
  rfl

theorem map_fresh_setPrediction (mem : e.predictions[i]? = some p) (phase : PredictionPhase) :
    (e.setPrediction i phase).predictions.map Prediction.fresh =
      e.predictions.map Prediction.fresh := by
  obtain ⟨before, after, hold, hnew⟩ := exists_setPrediction mem phase
  rw [hold, hnew, List.map_append, List.map_append, List.map_cons, List.map_cons]
  rfl

theorem Progress.of_same (h : e.Progress w config x predictors issued) (phase : e'.phase = e.phase)
    (fresh : e'.predictions.map Prediction.fresh = e.predictions.map Prediction.fresh) :
    e'.Progress w config x predictors issued := by
  rw [Progress] at h ⊢
  rw [phase, fresh]
  exact h

theorem map_fresh_visited (x : Installed) (l : List (String × Nat)) :
    (x.visited l).map Prediction.fresh = x.visited l := by
  have hfresh : ∀ p ∈ x.visited l, p.fresh = p := by
    intro p hp
    have pending := Stage.pending_of_mem_visited hp
    cases p
    cases pending
    rfl
  rw [List.map_congr_left hfresh, List.map_id']

/-- Counts are set in the attempt at the expected goal only. -/
theorem Progress.eq_nil_or_attempts (h : e.Progress w config x predictors issued) :
    issued = [] ∨ w.Attempts config (w.goal? config x predictors) issued := by
  rw [Progress] at h
  cases hphase : e.phase <;> rw [hphase] at h
  case dispatching => exact .inl h.2
  case joining => exact .inl h.2
  case reading goal => exact .inl h.2
  case setting goal action =>
    refine .inr ?_
    rw [h.1]
    exact h.2
  case ended report => exact .inr h.2
  case abandoned => exact h

theorem Progress.abandon (h : e.Progress w config x predictors issued) :
    ({ e with phase := .abandoned } : Evaluation).Progress w config x predictors issued :=
  h.eq_nil_or_attempts

/-- The attempt at the expected goal is over. -/
theorem progress_conclude {goal : Goal} (hgoal : w.goal? config x predictors = some goal)
    (decides : w.Decides config goal issued) (action : Option ScaleAction) :
    (e.conclude goal action).Progress w config x predictors issued := by
  rw [Progress, conclude]
  dsimp only
  rw [hgoal]
  exact ⟨rfl, decides⟩

/-- With its goal a round has not set anything yet. -/
theorem Progress.of_reading {goal : Goal} (h : e.Progress w config x predictors issued)
    (reading : e.phase = .reading goal) :
    w.goal? config x predictors = some goal ∧ issued = [] := by
  rw [Progress, reading] at h
  exact h

theorem Progress.of_setting {goal : Goal} {action : ScaleAction}
    (h : e.Progress w config x predictors issued) (setting : e.phase = .setting goal action) :
    w.goal? config x predictors = some goal ∧ w.Decides config goal issued := by
  rw [Progress, setting] at h
  exact h

/-- Before all forecasts are in nothing has been set. -/
theorem Progress.issued_eq_nil (h : e.Progress w config x predictors issued)
    (waits : e.isAimed = false) (active : e.isAbandoned = false) : issued = [] := by
  rw [Progress] at h
  rw [isAimed] at waits
  rw [isAbandoned] at active
  cases hphase : e.phase <;> simp only [hphase] at h waits active
  · exact h.2
  · exact h.2
  all_goals cases waits
  cases active

end Evaluation

namespace Stage

variable {s : Stage} {w : Answers} {predictors l : List (String × Nat)} {e e' : Evaluation}
  {i : Nat} {p : Prediction}

/-! ## The whole round -/

theorem progress_settled (follows : e.Follows w s.scaler.config)
    (h : e.Progress w s.scaler.config s.installed predictors []) :
    (s.settled e).Progress w s.scaler.config s.installed predictors [] := by
  rw [settled]
  split
  · next complete =>
    rw [Evaluation.isComplete] at complete
    split at complete
    · next joining =>
      rw [Evaluation.Progress] at h
      rw [joining] at h
      have hgoal := Evaluation.ofResults?_eq_goal? follows complete h.1
      simp only [aimed, Evaluation.withGoal]
      rw [hgoal]
      rw [Evaluation.Progress]
      cases hg : w.goal? s.scaler.config s.installed predictors with
      | none => exact ⟨rfl, rfl⟩
      | some goal => exact ⟨rfl, rfl⟩
    · cases complete
  · exact h

theorem progress_finish (follows : e.Follows w s.scaler.config)
    (h : e.Progress w s.scaler.config s.installed predictors [])
    (mem : e.predictions[i]? = some p) (waits : p.isDone = false) :
    (s.settled (e.finish i p.key (w.counts? s.scaler.config p))).Progress w s.scaler.config
      s.installed predictors [] :=
  progress_settled (follows.finish mem waits)
    (h.of_same rfl (Evaluation.map_fresh_setPrediction mem .done))

theorem progress_received (follows : e.Follows w s.scaler.config)
    (h : e.Progress w s.scaler.config s.installed predictors [])
    (mem : e.predictions[i]? = some p) (waits : p.isDone = false) :
    (s.received e i p (w.forecast p.key)).Progress w s.scaler.config s.installed predictors
      [] := by
  rcases s.received_cases w e i p with ⟨f, _, _, hcounting⟩ | hdone
  · rw [hcounting]
    exact h.of_same rfl (Evaluation.map_fresh_setPrediction mem _)
  · rw [hdone]
    exact progress_finish follows h mem waits

theorem progress_counted (follows : e.Follows w s.scaler.config)
    (h : e.Progress w s.scaler.config s.installed predictors [])
    (mem : e.predictions[i]? = some p) {forecast : Forecast}
    (counting : p.phase = .counting forecast) :
    (s.counted e i p forecast (w.reading p.key)).Progress w s.scaler.config s.installed
      predictors [] := by
  have waits : p.isDone = false := by rw [Prediction.isDone, counting]
  obtain ⟨reads, hforecast⟩ := follows.counting p (List.mem_of_getElem? mem) forecast counting
  rw [counted_eq e i reads hforecast]
  exact progress_finish follows h mem waits

/-- A visit to what is left of the predictors brings the round forward. -/
theorem Visits.progress (hv : s.Visits e l e') (follows : e.Follows w s.scaler.config)
    (joining : e.phase = .joining)
    (left : e.predictions.map Prediction.fresh ++ s.installed.visited l =
      s.installed.visited predictors) :
    e'.Progress w s.scaler.config s.installed predictors [] := by
  have waits : e.isAimed = false := by rw [Evaluation.isAimed, joining]
  cases hv with
  | all =>
    refine progress_settled (follows_visited follows waits) ?_
    rw [Evaluation.Progress]
    dsimp only
    rw [joining, List.map_append, Evaluation.map_fresh_visited]
    exact ⟨left, rfl⟩
  | @suspended before rest key predictor d split =>
    rw [Evaluation.Progress]
    dsimp only
    rw [List.map_append, Evaluation.map_fresh_visited, List.append_assoc,
      ← Installed.visited_append, List.append_assoc, List.singleton_append, ← split]
    exact ⟨left, rfl⟩

end Stage

namespace Controller

variable {c : Controller} {w : Answers} {predictors : List (String × Nat)} {e e' : Evaluation}

theorem news?_of_goalCount {id : Nat} (count : Except SourceError Int32) :
    c.news? id (.event (.goalCount id count)) = some (.goalReading count) := by
  simp only [news?, if_true]

/-- When a round advances it makes progress. -/
theorem Advances.progress {id : Nat} {x : Happening} {scaler : Scaler} {issued more : List Int32}
    (how : c.Advances id e x scaler e' more) (found : c.evaluations.get? id = some e)
    (tells : ∀ news ∈ c.news? id x, w.Tells news) (follows : e.Follows w c.scaler.config)
    (h : e.Progress w c.scaler.config c.store.installed predictors issued) :
    e'.Progress w c.scaler.config c.store.installed predictors (issued ++ more) := by
  -- where a forecast is open nothing has been set yet
  have nothing : ∀ {i : Nat} {p : Prediction}, e.predictions[i]? = some p → p.isDone = false →
      e.isAbandoned = false → issued = [] :=
    fun mem waits active => h.issued_eq_nil (follows.isAimed_eq_false mem waits) active
  cases how with
  | abandoned =>
    rw [List.append_nil]
    exact h.abandon
  | @brings i p forecast mem active pending opens =>
    have waits : p.isDone = false := by rw [Prediction.isDone, pending]
    obtain rfl := nothing mem waits active
    have hp := prediction?_eq_some found active mem
    obtain rfl : forecast = w.forecast p.key := tells _ (news?_of_brings hp pending opens)
    exact Stage.progress_received (s := c.stage) follows h mem waits
  | @asks i p request mem _ pending _ =>
    rw [List.append_nil]
    exact h.of_same rfl (Evaluation.map_fresh_setPrediction mem _)
  | @answers i p request reply mem active asking =>
    have waits : p.isDone = false := by rw [Prediction.isDone, asking]
    obtain rfl := nothing mem waits active
    have hp := prediction?_eq_some found active mem
    have hforecast : c.answered p request reply = w.forecast p.key :=
      tells _ (news?_of_answers hp asking)
    rw [hforecast]
    exact Stage.progress_received (s := c.stage) follows h mem waits
  | @counts i p forecast count mem active counting =>
    obtain rfl := nothing mem (by rw [Prediction.isDone, counting]) active
    have hp := prediction?_eq_some found active mem
    obtain rfl : count = w.reading p.key := tells _ (news?_of_counts hp counting)
    exact Stage.progress_counted (s := c.stage) follows h mem counting
  | resumes dispatching visits =>
    rw [Evaluation.Progress] at h
    rw [dispatching] at h
    obtain ⟨left, rfl⟩ := h
    refine visits.progress (s := c.stage) (follows.withPhase fun haimed => by cases haimed) rfl left
  | @unread goal cause reading =>
    obtain ⟨hgoal, rfl⟩ := h.of_reading reading
    have hreading : (.error cause : Except SourceError Int32) = w.goalReading :=
      tells _ (news?_of_goalCount _)
    refine Evaluation.progress_conclude hgoal ?_ none
    rw [Answers.Decides, ← hreading]
    rfl
  | @rests goal current scaler result reading decided =>
    obtain ⟨hgoal, rfl⟩ := h.of_reading reading
    have hreading : (.ok current : Except SourceError Int32) = w.goalReading :=
      tells _ (news?_of_goalCount _)
    refine Evaluation.progress_conclude hgoal ?_ _
    rw [Answers.Decides, ← hreading]
    exact ⟨c.scaler, c.now.steady, rfl, by rw [decided]; rfl⟩
  | @sets goal current n scaler action reading decided =>
    obtain ⟨hgoal, rfl⟩ := h.of_reading reading
    have hreading : (.ok current : Except SourceError Int32) = w.goalReading :=
      tells _ (news?_of_goalCount _)
    refine ⟨hgoal, ?_⟩
    rw [Answers.Decides, ← hreading]
    exact ⟨c.scaler, c.now.steady, rfl, by rw [decided]; rfl⟩
  | @ends goal action result setting =>
    obtain ⟨hgoal, decides⟩ := h.of_setting setting
    rw [List.append_nil]
    exact Evaluation.progress_conclude hgoal decides _

end Controller

namespace Tick

variable {t : Tick} {w : Answers}

/-- The goal of the tick, if nothing disturbs it. -/
def aim? (t : Tick) (w : Answers) : Option Goal :=
  w.goal? t.start.scaler.config t.start.store.installed t.start.store.predictors.toList

theorem exists_progress (fit : w.Fit t) (calm : t.Undisturbed) :
    ∃ e, t.round? = some e ∧ e.Progress w t.start.scaler.config t.start.store.installed
      t.start.store.predictors.toList t.issued := by
  have hround := t.exists_round (P := fun e issued => e.Follows w t.start.scaler.config ∧
    e.Progress w t.start.scaler.config t.start.store.installed
      t.start.store.predictors.toList issued) fit ?_ ?_
  · obtain ⟨e, round, _, progress⟩ := hround
    exact ⟨e, round, progress⟩
  · intro e visits
    have follows := Evaluation.follows_start w t.start.scaler.config t.owner
      t.start.store.predictors.toList.length
    exact ⟨visits.follows follows rfl, visits.progress follows rfl rfl⟩
  · intro c x scaler e e' issued more hconfig hinstalled found tells h how
    rw [← hconfig, ← hinstalled calm] at h ⊢
    exact ⟨how.follows found tells h.1, how.progress found tells h.1 h.2⟩

/-- What is set during a tick is set in the attempt at its goal. -/
theorem issued_eq_nil_or_attempts (fit : w.Fit t) (calm : t.Undisturbed) :
    t.issued = [] ∨ w.Attempts t.start.scaler.config (t.aim? w) t.issued := by
  obtain ⟨e, _, progress⟩ := t.exists_progress fit calm
  exact progress.eq_nil_or_attempts

/-- A tick that has ended reports the target of its goal. -/
theorem target_of_report? {report : EvaluationReport} (fit : w.Fit t) (calm : t.Undisturbed)
    (ended : t.report? = some report) :
    report.target = (t.aim? w).map Goal.target ∧
      w.Attempts t.start.scaler.config (t.aim? w) t.issued := by
  obtain ⟨e, round, progress⟩ := t.exists_progress fit calm
  rw [report?, round, Option.bind_some, Evaluation.report?] at ended
  rw [Evaluation.Progress] at progress
  cases hphase : e.phase <;> rw [hphase] at progress ended <;> cases ended
  exact progress

end Tick

end PredictiveScaling
