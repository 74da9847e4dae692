import Mathlib.Data.List.Nodup
import PredictiveScaling.Proofs.Evaluation.Aim

/-!
# What a tick reports

All that a tick depends on, apart from its beginning, are its surroundings: what the
predictors and the orchestrator answer, which metrics are found when the predictors are
visited and when all forecasts are in, and the time at which the scaler decides. They
determine the report and the counts that are set (`outcome`), in whatever order things happen
and whatever else happens. A round that has not ended and was not given up waits for an
answer; it never waits for a forecast that has failed.
-/
namespace PredictiveScaling

deriving instance DecidableEq for ScaleDown, Metric

/-! ## What a round waits for -/

namespace Evaluation

/-- The predictors that the visit has not come to. -/
def unvisited (e : Evaluation) : List (String × Nat) :=
  match e.phase with
  | .dispatching _ _ _ rest => rest
  | _ => []

/-- Something is still to come: the end of a dispatch, a forecast, or what came of reading or
setting the count. -/
def waits (e : Evaluation) : Bool :=
  match e.phase with
  | .dispatching .. | .reading _ | .setting .. => true
  | .joining => !e.predictions.all Prediction.isDone
  | .ended _ | .abandoned => false

end Evaluation

/-- All that a tick waits for has come, and it was not given up. -/
def Tick.Complete (t : Tick) : Prop :=
  ∃ e ∈ t.round?, e.waits = false ∧ e.isAbandoned = false

instance (t : Tick) : Decidable t.Complete :=
  inferInstanceAs (Decidable (∃ e ∈ t.round?, _))

/-- The round for which the scaler decides. -/
def Happening.decides? : Happening → Option Nat
  | .event (.goalCount round _) => some round
  | _ => none

/-! ## Surroundings -/

/-- What a tick meets on its way. -/
structure Surroundings extends Answers where
  /-- The metric that a visit finds for a predictor, if the predictor has a model. -/
  found : String → Option Metric
  /-- The metrics that are there when all forecasts are in. -/
  installed : String → Option Metric
  /-- The time on the steady clock when the scaler decides. -/
  now : Nat

/-- The surroundings of a tick as long as that is installed which a controller has. -/
def Answers.within (w : Answers) (c : Controller) (now : Nat) : Surroundings :=
  { w with found := c.store.installed.metricFor?, installed := c.store.metrics.find?, now }

namespace Surroundings

/-- The forecasts that visits to predictors let begin. -/
def visited (u : Surroundings) (predictors : List (String × Nat)) : List Prediction :=
  predictors.filterMap fun (key, predictor) =>
    (u.found key).map fun metric => ⟨key, predictor, metric.target, .pending⟩

theorem visited_append (u : Surroundings) (l l' : List (String × Nat)) :
    u.visited (l ++ l') = u.visited l ++ u.visited l' :=
  List.filterMap_append

/-- What comes in, up to its order. -/
def results (u : Surroundings) (config : ScalerConfig) (predictors : List (String × Nat)) :
    List PredictorResult :=
  (u.visited predictors).filterMap (u.result? config)

/-- The goal of what comes in. -/
def goal? (u : Surroundings) (config : ScalerConfig) (predictors : List (String × Nat)) :
    Option Goal :=
  Goal.ofFound? config u.installed (u.results config predictors)

/-- How the attempt at a goal ends, and the counts that are set in it. -/
def attempt (u : Surroundings) (scaler : Scaler) (goal : Goal) :
    Option ScaleAction × List Int32 :=
  match u.goalReading with
  | .error _ => (none, [])
  | .ok current =>
    match (scaler.decide u.now goal.scaleDown current goal.target).2 with
    | .settled result => (result.toOption, [])
    | .set n action => (u.goalSetting.toOption.map fun _ => action, [n])

/-- What a tick with this scaler over these predictors reports, and the counts that it sets. -/
def outcome (u : Surroundings) (scaler : Scaler) (predictors : List (String × Nat)) :
    EvaluationReport × List Int32 :=
  let count := (u.results scaler.config predictors).length
  match u.goal? scaler.config predictors with
  | none => (⟨count, none, none⟩, [])
  | some goal =>
    let (action, issued) := u.attempt scaler goal
    (⟨count, some goal.target, action⟩, issued)

/-! ### Meeting them -/

/-- If a round has its goal, the metrics of its results are those of the surroundings. -/
def Aims (u : Surroundings) (x : Installed) (e : Evaluation) : Prop :=
  e.isAimed = true →
    ∀ r ∈ e.results, ∀ k ∈ Goal.metricKey? r, x.metrics.find? k = u.installed k

/-- A round sees what the surroundings say: the visit has found their metrics for the
predictors that it has come to, and their metrics are there when the round is given its goal. -/
def Sees (u : Surroundings) (x : Installed) (before : List (String × Nat)) (aimed : Bool)
    (e : Evaluation) : Prop :=
  (∀ p ∈ before.take (before.length - e.unvisited.length), x.metricFor? p.1 = u.found p.1) ∧
    (aimed = false → u.Aims x e)

instance (u : Surroundings) (x : Installed) (e : Evaluation) : Decidable (u.Aims x e) :=
  inferInstanceAs (Decidable (_ → _))

instance (u : Surroundings) (x : Installed) (before : List (String × Nat)) (aimed : Bool)
    (e : Evaluation) : Decidable (u.Sees x before aimed e) :=
  inferInstanceAs (Decidable (_ ∧ (_ → _)))

/-- The scaler decides for this round only, and at this time. -/
def Times (u : Surroundings) (id : Nat) (x : Moment × Happening) : Prop :=
  ∀ round ∈ x.2.decides?, round = id ∧ x.1.steady = u.now

instance (u : Surroundings) (id : Nat) (x : Moment × Happening) : Decidable (u.Times id x) :=
  inferInstanceAs (Decidable (∀ round ∈ x.2.decides?, _))

/-- What happens next goes on in these surroundings. -/
def Meets (u : Surroundings) (id : Nat) (s : Controller × List Call) (x : Moment × Happening) :
    Prop :=
  (∀ news ∈ s.1.news? id x.2, u.Tells news) ∧ u.Times id x ∧
    ∀ e ∈ s.1.evaluations.get? id, ∀ e' ∈ (Controller.pass s x).1.evaluations.get? id,
      u.Sees s.1.store.installed e.unvisited e.isAimed e'

instance (u : Surroundings) (id : Nat) (s : Controller × List Call) (x : Moment × Happening) :
    Decidable (u.Meets id s x) :=
  inferInstanceAs (Decidable (_ ∧ _ ∧ _))

def MeetsAlong (u : Surroundings) (id : Nat) (s : Controller × List Call) :
    List (Moment × Happening) → Prop
  | [] => True
  | x :: xs => u.Meets id s x ∧ u.MeetsAlong id (Controller.pass s x) xs

instance decidableMeetsAlong (u : Surroundings) (id : Nat) (s : Controller × List Call) :
    (xs : List (Moment × Happening)) → Decidable (u.MeetsAlong id s xs)
  | [] => .isTrue trivial
  | x :: xs =>
    have := decidableMeetsAlong u id (Controller.pass s x) xs
    inferInstanceAs (Decidable (_ ∧ u.MeetsAlong id (Controller.pass s x) xs))

/-- A tick takes place in these surroundings. -/
def Surround (u : Surroundings) (t : Tick) : Prop :=
  (∀ e ∈ t.begun.1.evaluations.get? t.id,
    u.Sees t.start.store.installed t.start.store.predictors.toList false e) ∧
  u.MeetsAlong t.id t.begun t.course

instance (u : Surroundings) (t : Tick) : Decidable (u.Surround t) :=
  inferInstanceAs (Decidable (_ ∧ _))

end Surroundings

/-! ## How far a round has come -/

namespace Evaluation

/-- Where a round over some predictors stands, that began with `scaler`: the scaler now, and
the counts that were set for the round. -/
def Stands (u : Surroundings) (scaler : Scaler) (predictors : List (String × Nat))
    (e : Evaluation) (scaler' : Scaler) (issued : List Int32) : Prop :=
  match e.phase with
  | .dispatching _ _ _ rest =>
    e.predictions.map Prediction.fresh ++ u.visited rest = u.visited predictors ∧
      scaler' = scaler ∧ issued = []
  | .joining =>
    e.predictions.map Prediction.fresh = u.visited predictors ∧
      e.predictions.all Prediction.isDone = false ∧ scaler' = scaler ∧ issued = []
  | .reading goal =>
    u.goal? scaler.config predictors = some goal ∧
      e.results.length = (u.results scaler.config predictors).length ∧
      scaler' = scaler ∧ issued = []
  | .setting goal action =>
    u.goal? scaler.config predictors = some goal ∧
      e.results.length = (u.results scaler.config predictors).length ∧
      u.attempt scaler goal = (u.goalSetting.toOption.map fun _ => action, issued)
  | .ended report => (report, issued) = u.outcome scaler predictors
  | .abandoned => True

variable {u : Surroundings} {scaler scaler' : Scaler} {predictors : List (String × Nat)}
  {e e' : Evaluation} {i : Nat} {p : Prediction} {issued : List Int32}

/-- The attempt at the goal is over. -/
theorem stands_conclude {goal : Goal} {action : Option ScaleAction}
    (hgoal : u.goal? scaler.config predictors = some goal)
    (count : e.results.length = (u.results scaler.config predictors).length)
    (attempt : u.attempt scaler goal = (action, issued)) (scaler' : Scaler) :
    (e.conclude goal action).Stands u scaler predictors scaler' issued := by
  rw [Stands, conclude]
  dsimp only
  rw [Surroundings.outcome, hgoal, count]
  dsimp only
  rw [attempt]

/-- A visit is under way. -/
theorem stands_dispatching {key : String} {predictor : Nat} {d : Dispatch}
    {rest : List (String × Nat)} (dispatching : e.phase = .dispatching key predictor d rest)
    (visited : e.predictions.map Prediction.fresh ++ u.visited rest = u.visited predictors) :
    e.Stands u scaler predictors scaler [] := by
  rw [Stands, dispatching]
  exact ⟨visited, rfl, rfl⟩

/-- While forecasts are open, nothing has been decided and nothing has been set. -/
theorem Stands.of_open (h : e.Stands u scaler predictors scaler' issued)
    (waits : e.isAimed = false) (active : e.isAbandoned = false) :
    scaler' = scaler ∧ issued = [] ∧
      e.predictions.map Prediction.fresh ++ u.visited e.unvisited = u.visited predictors := by
  rw [Stands] at h
  rw [isAimed] at waits
  rw [isAbandoned] at active
  rw [unvisited]
  cases hphase : e.phase <;> simp only [hphase] at h waits active ⊢
  case dispatching => exact ⟨h.2.1, h.2.2, h.1⟩
  case joining => exact ⟨h.2.2.1, h.2.2.2, (List.append_nil _).trans h.1⟩
  all_goals cases waits
  cases active

/-- A forecast goes on, and the round still waits for it. -/
theorem Stands.setPrediction (h : e.Stands u scaler predictors scaler' issued)
    (haimed : e.isAimed = false) (mem : e.predictions[i]? = some p) {phase : PredictionPhase}
    (hphase : ({ p with phase } : Prediction).isDone = false) :
    (e.setPrediction i phase).Stands u scaler predictors scaler' issued := by
  have hfresh := map_fresh_setPrediction mem phase
  have hundone : (e.setPrediction i phase).predictions.all Prediction.isDone = false := by
    obtain ⟨before, after, _, hnew⟩ := exists_setPrediction mem phase
    rw [hnew, List.all_append, List.all_cons, hphase, Bool.false_and, Bool.and_false]
  have hsame : (e.setPrediction i phase).phase = e.phase := rfl
  rw [Stands] at h ⊢
  rw [isAimed] at haimed
  rw [hsame, hfresh]
  cases hphase : e.phase <;> simp only [hphase] at h haimed ⊢
  case dispatching => exact h
  case joining => exact ⟨h.1, hundone, h.2.2⟩
  all_goals cases haimed

end Evaluation

namespace Stage

variable {s : Stage} {u : Surroundings} {predictors l : List (String × Nat)} {e e' : Evaluation}
  {i : Nat} {p : Prediction}

/-- A visit that sees what the surroundings say lets their forecasts begin. -/
theorem visited_eq_of_sees {x : Installed} {before : List (String × Nat)}
    (h : ∀ p ∈ before, x.metricFor? p.1 = u.found p.1) : x.visited before = u.visited before := by
  refine List.filterMap_congr fun p hp => ?_
  obtain ⟨key, predictor⟩ := p
  dsimp only
  rw [h _ hp]

/-- When nothing is left to wait for, the goal is that of the surroundings. -/
theorem stands_settled (follows : e.Follows u.toAnswers s.scaler.config)
    (joining : e.phase = .joining)
    (visited : e.predictions.map Prediction.fresh = u.visited predictors)
    (aims : u.Aims s.installed (s.settled e)) :
    (s.settled e).Stands u s.scaler predictors s.scaler [] := by
  have hcomplete : e.isComplete = e.predictions.all Prediction.isDone := by
    rw [Evaluation.isComplete, joining]
  rw [settled, hcomplete] at aims ⊢
  cases hall : e.predictions.all Prediction.isDone with
  | false =>
    rw [if_neg Bool.false_ne_true, Evaluation.Stands, joining]
    exact ⟨visited, hall, rfl, rfl⟩
  | true =>
    rw [hall, if_pos rfl] at aims
    rw [if_pos rfl]
    have hdone : e.predictions.filter Prediction.isDone = e.predictions :=
      List.filter_eq_self.2 (List.all_eq_true.1 hall)
    have hresults : e.results.Perm (u.results s.scaler.config predictors) := by
      have h := follows.results
      rw [hdone] at h
      rw [Surroundings.results, ← visited, List.filterMap_map]
      exact h
    have haimed : (s.aimed e).isAimed = true ∧ (s.aimed e).results = e.results := by
      simp only [aimed, Evaluation.withGoal]
      split <;> exact ⟨rfl, rfl⟩
    have hgoal : Goal.ofResults? s.scaler.config s.installed.metrics e.results =
        u.goal? s.scaler.config predictors := by
      rw [Surroundings.goal?, ← Goal.ofFound?_perm hresults]
      refine Goal.ofResults?_eq_ofFound? fun k hk => ?_
      obtain ⟨r, hr, hkey⟩ := Goal.mem_resultKeys.1 hk
      exact aims haimed.1 r (by rw [haimed.2]; exact hr) k hkey
    rw [aimed, hgoal]
    cases hg : u.goal? s.scaler.config predictors with
    | none =>
      rw [Evaluation.withGoal, Evaluation.Stands]
      dsimp only
      rw [Surroundings.outcome, hg, hresults.length_eq]
    | some goal =>
      rw [Evaluation.withGoal, Evaluation.Stands]
      exact ⟨hg, hresults.length_eq, rfl, rfl⟩

/-- A forecast is done with. If it was the last one, the round is given its goal. -/
theorem stands_finish {scaler : Scaler} {issued : List Int32}
    (follows : e.Follows u.toAnswers s.scaler.config)
    (h : e.Stands u scaler predictors s.scaler issued) (mem : e.predictions[i]? = some p)
    (waits : p.isDone = false) (active : e.isAbandoned = false)
    (aims : u.Aims s.installed (s.settled (e.finish i p.key (u.counts? s.scaler.config p)))) :
    (s.settled (e.finish i p.key (u.counts? s.scaler.config p))).Stands u scaler predictors
      s.scaler issued := by
  have haimed := follows.isAimed_eq_false mem waits
  obtain ⟨rfl, rfl, hvisited⟩ := h.of_open haimed active
  have hfresh := Evaluation.map_fresh_setPrediction mem .done
  cases hphase : e.phase with
  | joining =>
    rw [Evaluation.unvisited, hphase] at hvisited
    refine stands_settled (follows.finish mem waits) hphase ?_ aims
    exact hfresh.trans ((List.append_nil _).symm.trans hvisited)
  | dispatching key predictor d rest =>
    have hphase' : (e.finish i p.key (u.counts? s.scaler.config p)).phase =
        .dispatching key predictor d rest := hphase
    have hincomplete : (e.finish i p.key (u.counts? s.scaler.config p)).isComplete = false := by
      rw [Evaluation.isComplete, hphase']
    rw [settled, hincomplete, if_neg Bool.false_ne_true]
    refine Evaluation.stands_dispatching hphase' ?_
    rw [Evaluation.unvisited, hphase] at hvisited
    exact (congrArg (· ++ u.visited rest) hfresh).trans hvisited
  | reading goal => rw [Evaluation.isAimed, hphase] at haimed; cases haimed
  | setting goal action => rw [Evaluation.isAimed, hphase] at haimed; cases haimed
  | ended report => rw [Evaluation.isAimed, hphase] at haimed; cases haimed
  | abandoned => rw [Evaluation.isAbandoned, hphase] at active; cases active

theorem stands_received {scaler : Scaler} {issued : List Int32}
    (follows : e.Follows u.toAnswers s.scaler.config)
    (h : e.Stands u scaler predictors s.scaler issued) (mem : e.predictions[i]? = some p)
    (waits : p.isDone = false) (active : e.isAbandoned = false)
    (aims : u.Aims s.installed (s.received e i p (u.forecast p.key))) :
    (s.received e i p (u.forecast p.key)).Stands u scaler predictors s.scaler issued := by
  rcases s.received_cases u.toAnswers e i p with ⟨f, _, _, hcounting⟩ | hdone
  · rw [hcounting]
    exact h.setPrediction (follows.isAimed_eq_false mem waits) mem rfl
  · rw [hdone] at aims ⊢
    exact stands_finish follows h mem waits active aims

theorem stands_counted {scaler : Scaler} {issued : List Int32}
    (follows : e.Follows u.toAnswers s.scaler.config)
    (h : e.Stands u scaler predictors s.scaler issued) (mem : e.predictions[i]? = some p)
    (active : e.isAbandoned = false) {forecast : Forecast} (counting : p.phase = .counting forecast)
    (aims : u.Aims s.installed (s.counted e i p forecast (u.reading p.key))) :
    (s.counted e i p forecast (u.reading p.key)).Stands u scaler predictors s.scaler issued := by
  have waits : p.isDone = false := by rw [Prediction.isDone, counting]
  obtain ⟨reads, hforecast⟩ := follows.counting p (List.mem_of_getElem? mem) forecast counting
  rw [counted_eq e i reads hforecast] at aims ⊢
  exact stands_finish follows h mem waits active aims

theorem unvisited_settled (joining : e.phase = .joining) : (s.settled e).unvisited = [] := by
  rw [settled]
  split
  · simp only [aimed, Evaluation.withGoal]
    split <;> rfl
  · rw [Evaluation.unvisited, joining]

/-- A visit to what is left of the predictors sees what the surroundings say. -/
theorem Visits.stands (hv : s.Visits e l e') (follows : e.Follows u.toAnswers s.scaler.config)
    (joining : e.phase = .joining)
    (left : e.predictions.map Prediction.fresh ++ u.visited l = u.visited predictors)
    (sees : u.Sees s.installed l false e') : e'.Stands u s.scaler predictors s.scaler [] := by
  obtain ⟨found, aims⟩ := sees
  cases hv with
  | all =>
    have hnone : (s.settled { e with
        predictions := e.predictions ++ s.installed.visited l }).unvisited = [] :=
      unvisited_settled joining
    rw [hnone, List.length_nil, Nat.sub_zero, List.take_length] at found
    have hvisited := visited_eq_of_sees found
    have waits : e.isAimed = false := by rw [Evaluation.isAimed, joining]
    refine stands_settled ?_ joining ?_ (aims rfl)
    · exact follows_visited follows waits
    · rw [List.map_append, Evaluation.map_fresh_visited, hvisited]
      exact left
  | @suspended before rest key predictor d split =>
    have hbefore : l.take (l.length - rest.length) = before ++ [(key, predictor)] := by
      have hl : l = (before ++ [(key, predictor)]) ++ rest := by rw [split]; simp
      rw [hl, List.length_append, Nat.add_sub_cancel, List.take_left]
    change ∀ p ∈ l.take (l.length - rest.length), _ at found
    rw [hbefore] at found
    refine Evaluation.stands_dispatching rfl ?_
    rw [List.map_append, Evaluation.map_fresh_visited, visited_eq_of_sees found,
      List.append_assoc, ← Surroundings.visited_append, List.append_assoc, List.singleton_append,
      ← split]
    exact left

end Stage

namespace Controller

variable {c : Controller} {u : Surroundings} {scaler scaler' : Scaler}
  {predictors : List (String × Nat)} {e e' : Evaluation} {id : Nat} {x : Happening}
  {issued more : List Int32}

theorem news?_of_goalSet (result : Except SourceError Unit) :
    c.news? id (.event (.goalSet id result)) = some (.goalSetting result) := by
  simp only [news?, if_true]

/-- The scaler changes only where it decides. -/
theorem Advances.scaler_eq (how : c.Advances id e x scaler' e' more) (h : id ∉ x.decides?) :
    scaler' = c.scaler := by
  cases how with
  | rests _ _ => exact absurd rfl h
  | sets _ _ => exact absurd rfl h
  | _ => rfl

/-- When a round advances in its surroundings, it stands where they have put it. -/
theorem Advances.stands (how : c.Advances id e x scaler' e' more)
    (found : c.evaluations.get? id = some e) (tells : ∀ news ∈ c.news? id x, u.Tells news)
    (times : ∀ round ∈ x.decides?, c.now.steady = u.now)
    (sees : u.Sees c.store.installed e.unvisited e.isAimed e')
    (follows : e.Follows u.toAnswers c.scaler.config)
    (h : e.Stands u scaler predictors c.scaler issued) :
    e'.Stands u scaler predictors scaler' (issued ++ more) := by
  cases how with
  | abandoned => trivial
  | @brings i p forecast mem active pending opens =>
    have waits : p.isDone = false := by rw [Prediction.isDone, pending]
    have hp := prediction?_eq_some found active mem
    obtain rfl : forecast = u.forecast p.key := tells _ (news?_of_brings hp pending opens)
    rw [List.append_nil]
    exact Stage.stands_received (s := c.stage) follows h mem waits active
      (sees.2 (follows.isAimed_eq_false mem waits))
  | @asks i p request mem active pending _ =>
    rw [List.append_nil]
    refine h.setPrediction (follows.isAimed_eq_false mem ?_) mem rfl
    rw [Prediction.isDone, pending]
  | @answers i p request reply mem active asking =>
    have waits : p.isDone = false := by rw [Prediction.isDone, asking]
    have hp := prediction?_eq_some found active mem
    have hforecast : c.answered p request reply = u.forecast p.key :=
      tells _ (news?_of_answers hp asking)
    rw [List.append_nil]
    rw [hforecast] at sees ⊢
    exact Stage.stands_received (s := c.stage) follows h mem waits active
      (sees.2 (follows.isAimed_eq_false mem waits))
  | @counts i p forecast count mem active counting =>
    have waits : p.isDone = false := by rw [Prediction.isDone, counting]
    have hp := prediction?_eq_some found active mem
    obtain rfl : count = u.reading p.key := tells _ (news?_of_counts hp counting)
    rw [List.append_nil]
    exact Stage.stands_counted (s := c.stage) follows h mem active counting
      (sees.2 (follows.isAimed_eq_false mem waits))
  | @resumes key predictor d rest result _ dispatching visits =>
    have haimed : e.isAimed = false := by rw [Evaluation.isAimed, dispatching]
    have active : e.isAbandoned = false := by rw [Evaluation.isAbandoned, dispatching]
    obtain ⟨rfl, rfl, hvisited⟩ := h.of_open haimed active
    rw [haimed] at sees
    rw [Evaluation.unvisited, dispatching] at sees hvisited
    exact visits.stands (s := c.stage) (follows.withPhase fun haimed => by cases haimed) rfl
      hvisited sees
  | @unread goal cause reading =>
    rw [Evaluation.Stands, reading] at h
    obtain ⟨hgoal, count, rfl, rfl⟩ := h
    have hreading : (.error cause : Except SourceError Int32) = u.goalReading :=
      tells _ (news?_of_goalCount _)
    refine Evaluation.stands_conclude hgoal count ?_ _
    rw [Surroundings.attempt, ← hreading]
    rfl
  | @rests goal current _ result reading decided =>
    rw [Evaluation.Stands, reading] at h
    obtain ⟨hgoal, count, rfl, rfl⟩ := h
    have hreading : (.ok current : Except SourceError Int32) = u.goalReading :=
      tells _ (news?_of_goalCount _)
    have hnow : c.now.steady = u.now := times id rfl
    refine Evaluation.stands_conclude hgoal count ?_ _
    rw [hnow] at decided
    rw [Surroundings.attempt, ← hreading]
    dsimp only
    rw [decided]
    rfl
  | @sets goal current n _ action reading decided =>
    rw [Evaluation.Stands, reading] at h
    obtain ⟨hgoal, count, rfl, rfl⟩ := h
    have hreading : (.ok current : Except SourceError Int32) = u.goalReading :=
      tells _ (news?_of_goalCount _)
    have hnow : c.now.steady = u.now := times id rfl
    rw [hnow] at decided
    refine ⟨hgoal, count, ?_⟩
    rw [Surroundings.attempt, ← hreading]
    dsimp only
    rw [decided]
    rfl
  | @ends goal action result setting =>
    rw [Evaluation.Stands, setting] at h
    obtain ⟨hgoal, count, attempt⟩ := h
    have hresult : result = u.goalSetting := tells _ (news?_of_goalSet result)
    rw [List.append_nil, hresult]
    exact Evaluation.stands_conclude hgoal count attempt _

end Controller

/-! ## Whole ticks -/

namespace Tick

variable {t : Tick} {u : Surroundings}

/-- Throughout a tick the round stands where its surroundings have put it. -/
theorem exists_stands (around : u.Surround t) :
    ∃ e scaler, t.round? = some e ∧ e.Follows u.toAnswers t.start.scaler.config ∧
      e.Stands u t.start.scaler t.start.store.predictors.toList scaler t.issued := by
  -- from any moment on, along the rest of the course
  have along : ∀ (xs : List (Moment × Happening)) (s : Controller × List Call) (e : Evaluation),
      s.1.scaler.config = t.start.scaler.config → s.1.evaluations.get? t.id = some e →
      u.MeetsAlong t.id s xs → e.Follows u.toAnswers t.start.scaler.config →
      e.Stands u t.start.scaler t.start.store.predictors.toList s.1.scaler (countsFor t.id s.2) →
      ∃ e scaler, (xs.foldl Controller.pass s).1.evaluations.get? t.id = some e ∧
        e.Follows u.toAnswers t.start.scaler.config ∧
        e.Stands u t.start.scaler t.start.store.predictors.toList scaler
          (countsFor t.id (xs.foldl Controller.pass s).2) := by
    intro xs
    induction xs with
    | nil => exact fun s e _ found _ follows h => ⟨e, s.1.scaler, found, follows, h⟩
    | cons x xs ih =>
      intro s e hconfig found meets follows h
      obtain ⟨⟨tells, times, sees⟩, rest⟩ := meets
      have hconfig' := (config_pass s x).trans hconfig
      obtain ⟨e', more, found', hcounts, hnext⟩ := pass_cases (x := x) found
      rw [List.foldl_cons]
      rcases hnext with ⟨rfl, rfl, hscaler⟩ | how
      · rw [List.append_nil] at hcounts
        refine ih _ e' hconfig' found' rest follows ?_
        rw [hcounts]
        rcases hscaler with hscaler | ⟨other, e₁, e₁', issued, hne, how⟩
        · rw [hscaler]
          exact h
        · -- the scaler has decided for no other round
          have hdecides : other ∉ x.2.decides? := fun hother => hne (times other hother).1
          rw [how.scaler_eq hdecides]
          exact h
      · refine ih _ e' hconfig' found' rest ?_ ?_
        · rw [← hconfig] at follows ⊢
          exact how.follows found tells follows
        · rw [hcounts]
          refine how.stands found tells (fun round hround => (times round hround).2) ?_ ?_ h
          · exact sees e found e' found'
          · exact hconfig ▸ follows
  obtain ⟨e, found, hcounts, hscaler, _, visits⟩ := t.stage_begun
  have follows := Evaluation.follows_start u.toAnswers t.start.scaler.config t.owner
    t.start.store.predictors.toList.length
  refine along t.course t.begun e ?_ found around.2 ?_ ?_
  · rw [hscaler]
  · exact visits.follows follows rfl
  · rw [hcounts, hscaler]
    exact visits.stands (s := t.start.stage) follows rfl rfl (around.1 e found)

/-- In its surroundings a round that waits for nothing has ended, unless it was given up. No
forecast that has failed keeps it from its end. -/
theorem exists_report?_of_complete (around : u.Surround t) (complete : t.Complete) :
    ∃ report, t.report? = some report ∧
      (report, t.issued) = u.outcome t.start.scaler t.start.store.predictors.toList := by
  obtain ⟨e, scaler, round, _, h⟩ := t.exists_stands around
  obtain ⟨e', round', waits, active⟩ := complete
  obtain rfl : e = e' := Option.some.inj (round.symm.trans round')
  rw [Evaluation.Stands] at h
  rw [Evaluation.waits] at waits
  rw [Evaluation.isAbandoned] at active
  rw [report?, round, Option.bind_some, Evaluation.report?]
  cases hphase : e.phase <;> simp only [hphase] at h waits active ⊢
  case joining =>
    rw [h.2.1] at waits
    cases waits
  case ended report => exact ⟨report, rfl, h⟩
  all_goals cases waits
  cases active

/-! ### Ticks that nothing disturbs -/

/-- Where nothing is installed or removed, a tick finds what there was at its beginning. -/
theorem surround_within {w : Answers} {now : Nat} (calm : t.Undisturbed) (fit : w.Fit t)
    (times : ∀ x ∈ t.course, (w.within t.start now).Times t.id x) :
    (w.within t.start now).Surround t := by
  have sees : ∀ {x : Installed}, x = t.start.store.installed → ∀ before aimed e,
      (w.within t.start now).Sees x before aimed e := by
    rintro _ rfl before aimed e
    exact ⟨fun _ _ => rfl, fun _ _ _ _ _ _ => rfl⟩
  have along : ∀ (xs : List (Moment × Happening)) (s : Controller × List Call),
      (∀ x ∈ xs, x ∈ t.course) → s.1.store.installed = t.start.store.installed →
      w.FitAlong t.id s xs → (w.within t.start now).MeetsAlong t.id s xs := by
    intro xs
    induction xs with
    | nil => exact fun _ _ _ _ => trivial
    | cons x xs ih =>
      intro s mem same fit
      have hx := mem x List.mem_cons_self
      refine ⟨⟨fit.1, times x hx, fun e _ e' _ => sees same _ _ _⟩, ?_⟩
      refine ih _ (fun y hy => mem y (List.mem_cons_of_mem _ hy)) ?_ fit.2
      rw [installed_pass (calm x hx), same]
  obtain ⟨_, _, _, _, installed, _⟩ := t.stage_begun
  exact ⟨fun e _ => sees rfl _ _ _, along t.course t.begun (fun _ h => h) installed fit⟩

end Tick

end PredictiveScaling
