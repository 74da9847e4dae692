import PredictiveScaling.Proofs.Evaluation.Goal
import PredictiveScaling.Proofs.Evaluation.Tick

/-!
# What a round comes to

Throughout a tick the results that have come in are, in some order, those of the forecasts
that are done with: each forecast that comes and can be turned into counts has its result,
and one that fails has none (`Follows`). This holds whatever else happens to the controller.
-/
namespace PredictiveScaling

/-- The counts that a forecast of a round comes to, unless the predictor or the read of the
current count fails. -/
def Answers.counts? (w : Answers) (config : ScalerConfig) (p : Prediction) :
    Option (List Int32) :=
  (w.forecast p.key).bind fun forecast =>
    if config.baseStrategy.readsCurrent then
      (w.reading p.key).toOption.map fun n => Scaler.modelCounts config forecast n p.target
    else some (Scaler.modelCounts config forecast 0 p.target)

def Answers.result? (w : Answers) (config : ScalerConfig) (p : Prediction) :
    Option PredictorResult :=
  (w.counts? config p).map fun counts => ⟨p.key, counts⟩

namespace Evaluation

/-- The goal that was set, while the scaler moves towards it. -/
def goal? (e : Evaluation) : Option Goal :=
  match e.phase with
  | .reading goal | .setting goal _ => some goal
  | _ => none

/-- The visit and all forecasts are over, and the round was not given up. -/
def isAimed (e : Evaluation) : Bool :=
  match e.phase with
  | .reading _ | .setting .. | .ended _ => true
  | .dispatching .. | .joining | .abandoned => false

/-- What a round has learnt is what the answers say, and what has come in is what the
forecasts that are done with come to. -/
structure Follows (w : Answers) (config : ScalerConfig) (e : Evaluation) : Prop where
  counting : ∀ p ∈ e.predictions, ∀ forecast, p.phase = .counting forecast →
    config.baseStrategy.readsCurrent = true ∧ w.forecast p.key = some forecast
  results : e.results.Perm
    ((e.predictions.filter Prediction.isDone).filterMap (w.result? config))
  done_of_aimed : e.isAimed = true → ∀ p ∈ e.predictions, p.isDone = true

variable {w : Answers} {config : ScalerConfig} {e : Evaluation} {i : Nat} {p : Prediction}

/-! ## One forecast -/

/-- A forecast among the others, and what stands there after its phase has changed. -/
theorem exists_setPrediction (mem : e.predictions[i]? = some p) (phase : PredictionPhase) :
    ∃ before after, e.predictions = before ++ p :: after ∧
      (e.setPrediction i phase).predictions = before ++ { p with phase } :: after := by
  obtain ⟨hlt, hp⟩ := List.getElem?_eq_some_iff.1 mem
  refine ⟨e.predictions.take i, e.predictions.drop (i + 1), ?_, ?_⟩
  · rw [← hp, ← List.drop_eq_getElem_cons hlt, List.take_append_drop]
  · rw [setPrediction, List.modify_eq_take_cons_drop hlt, hp]

theorem mem_setPrediction (mem : e.predictions[i]? = some p) {phase : PredictionPhase}
    {q : Prediction} (hq : q ∈ (e.setPrediction i phase).predictions) :
    q = { p with phase } ∨ q ∈ e.predictions := by
  obtain ⟨before, after, hold, hnew⟩ := exists_setPrediction mem phase
  rw [hnew, List.mem_append, List.mem_cons] at hq
  rw [hold, List.mem_append, List.mem_cons]
  rcases hq with hq | hq | hq
  · exact .inr (.inl hq)
  · exact .inl hq
  · exact .inr (.inr (.inr hq))

/-- A round that waits for a forecast has no goal yet. -/
theorem Follows.isAimed_eq_false (h : e.Follows w config) (mem : e.predictions[i]? = some p)
    (waits : p.isDone = false) : e.isAimed = false := by
  cases haimed : e.isAimed with
  | false => rfl
  | true =>
    have hdone := h.done_of_aimed haimed p (List.mem_of_getElem? mem)
    rw [waits] at hdone
    cases hdone

/-- A forecast goes on without being done. -/
theorem Follows.setPrediction (h : e.Follows w config) (mem : e.predictions[i]? = some p)
    (waits : p.isDone = false) {phase : PredictionPhase}
    (hphase : ({ p with phase } : Prediction).isDone = false)
    (hcounting : ∀ forecast, phase = .counting forecast →
      config.baseStrategy.readsCurrent = true ∧ w.forecast p.key = some forecast) :
    (e.setPrediction i phase).Follows w config := by
  refine ⟨?_, ?_, ?_⟩
  · intro q hq forecast hforecast
    rcases mem_setPrediction mem hq with rfl | hq
    · exact hcounting forecast hforecast
    · exact h.counting q hq forecast hforecast
  · obtain ⟨before, after, hold, hnew⟩ := exists_setPrediction mem phase
    have hresults := h.results
    rw [hold] at hresults
    rw [hnew]
    simp only [List.filter_append, List.filter_cons, waits, hphase, Bool.false_eq_true,
      if_false] at hresults ⊢
    exact hresults
  · intro haimed
    have hwaits : (e.setPrediction i phase).isAimed = false := h.isAimed_eq_false mem waits
    rw [hwaits] at haimed
    cases haimed

/-- A forecast is done with: its result comes in if there is one. -/
theorem Follows.finish (h : e.Follows w config) (mem : e.predictions[i]? = some p)
    (waits : p.isDone = false) : (e.finish i p.key (w.counts? config p)).Follows w config := by
  refine ⟨?_, ?_, ?_⟩
  · intro q hq forecast hforecast
    rcases mem_setPrediction mem hq with rfl | hq
    · cases hforecast
    · exact h.counting q hq forecast hforecast
  · obtain ⟨before, after, hold, hnew⟩ := exists_setPrediction mem .done
    have hresults := h.results
    rw [hold] at hresults
    change (e.results ++ (w.result? config p).toList).Perm
      (((e.setPrediction i .done).predictions.filter Prediction.isDone).filterMap
        (w.result? config))
    have hdone : ({ p with phase := .done } : Prediction).isDone = true := rfl
    have hsame : w.result? config { p with phase := .done } = w.result? config p := rfl
    simp only [List.filter_append, List.filter_cons, waits, Bool.false_eq_true, if_false,
      List.filterMap_append] at hresults
    rw [hnew]
    simp only [List.filter_append, List.filter_cons, hdone, if_true, List.filterMap_append,
      List.filterMap_cons, hsame]
    cases w.result? config p with
    | none => simpa using hresults
    | some r =>
      exact (List.perm_append_singleton r e.results).trans
        ((hresults.cons r).trans List.perm_middle.symm)
  · intro haimed
    have hwaits : (e.finish i p.key (w.counts? config p)).isAimed = false :=
      h.isAimed_eq_false mem waits
    rw [hwaits] at haimed
    cases haimed

/-- Only the phase has changed, and nothing has been left open. -/
theorem Follows.withPhase (h : e.Follows w config) {phase : EvaluationPhase}
    (hdone : ({ e with phase } : Evaluation).isAimed = true →
      ∀ p ∈ e.predictions, p.isDone = true) :
    ({ e with phase } : Evaluation).Follows w config :=
  ⟨h.counting, h.results, hdone⟩

end Evaluation

namespace Stage

variable {s : Stage} {w : Answers} {e e' : Evaluation} {i : Nat} {p : Prediction}

/-! ## The whole round -/

theorem aimed_eq_withPhase (s : Stage) (e : Evaluation) :
    ∃ phase, s.aimed e = { e with phase } := by
  simp only [aimed, Evaluation.withGoal]
  split
  · exact ⟨_, rfl⟩
  · exact ⟨_, rfl⟩

theorem follows_settled (h : e.Follows w s.scaler.config) :
    (s.settled e).Follows w s.scaler.config := by
  rw [settled]
  split
  · next complete =>
    obtain ⟨phase, haimed⟩ := s.aimed_eq_withPhase e
    rw [haimed]
    refine h.withPhase fun _ => ?_
    rw [Evaluation.isComplete] at complete
    split at complete
    · exact List.all_eq_true.1 complete
    · cases complete
  · exact h

/-- A forecast that has come is counted next, or it is done with and comes to its counts. -/
theorem received_cases (s : Stage) (w : Answers) (e : Evaluation) (i : Nat) (p : Prediction) :
    (∃ f, s.scaler.config.baseStrategy.readsCurrent = true ∧ w.forecast p.key = some f ∧
      s.received e i p (w.forecast p.key) = e.setPrediction i (.counting f)) ∨
    s.received e i p (w.forecast p.key) =
      s.settled (e.finish i p.key (w.counts? s.scaler.config p)) := by
  simp only [received, Answers.counts?]
  cases hforecast : w.forecast p.key with
  | none => exact .inr rfl
  | some f =>
    dsimp only
    split
    · next reads => exact .inl ⟨f, reads, rfl, rfl⟩
    · exact .inr rfl

theorem counted_eq (e : Evaluation) (i : Nat) {forecast : Forecast}
    (reads : s.scaler.config.baseStrategy.readsCurrent = true)
    (hforecast : w.forecast p.key = some forecast) :
    s.counted e i p forecast (w.reading p.key) =
      s.settled (e.finish i p.key (w.counts? s.scaler.config p)) := by
  rw [counted, Answers.counts?]
  rw [hforecast]
  simp only [Option.bind_some, reads, if_true]

theorem follows_received (h : e.Follows w s.scaler.config) (mem : e.predictions[i]? = some p)
    (waits : p.isDone = false) :
    (s.received e i p (w.forecast p.key)).Follows w s.scaler.config := by
  rcases s.received_cases w e i p with ⟨f, reads, hforecast, hcounting⟩ | hdone
  · rw [hcounting]
    refine h.setPrediction mem waits rfl fun forecast hphase => ?_
    cases hphase
    exact ⟨reads, hforecast⟩
  · rw [hdone]
    exact follows_settled (h.finish mem waits)

theorem follows_counted (h : e.Follows w s.scaler.config) (mem : e.predictions[i]? = some p)
    {forecast : Forecast} (counting : p.phase = .counting forecast) :
    (s.counted e i p forecast (w.reading p.key)).Follows w s.scaler.config := by
  have waits : p.isDone = false := by rw [Prediction.isDone, counting]
  obtain ⟨reads, hforecast⟩ := h.counting p (List.mem_of_getElem? mem) forecast counting
  rw [counted_eq e i reads hforecast]
  exact follows_settled (h.finish mem waits)

theorem pending_of_mem_visited {x : Installed} {l : List (String × Nat)} {p : Prediction}
    (h : p ∈ x.visited l) : p.phase = .pending := by
  obtain ⟨⟨key, predictor⟩, _, hp⟩ := List.mem_filterMap.1 h
  obtain ⟨metric, _, rfl⟩ := Option.map_eq_some_iff.1 hp
  rfl

/-- More predictors are visited, and the visit goes on or is suspended. -/
theorem follows_visited {x : Installed} {l : List (String × Nat)} {phase : EvaluationPhase}
    (h : e.Follows w s.scaler.config) (open_ : ({ e with phase } : Evaluation).isAimed = false) :
    ({ e with predictions := e.predictions ++ x.visited l, phase } : Evaluation).Follows w
      s.scaler.config := by
  refine ⟨?_, ?_, ?_⟩
  · intro q hq forecast hforecast
    rcases List.mem_append.1 hq with hq | hq
    · exact h.counting q hq forecast hforecast
    · rw [pending_of_mem_visited hq] at hforecast
      cases hforecast
  · have hnone : (x.visited l).filter Prediction.isDone = [] := by
      refine List.filter_eq_nil_iff.2 fun q hq => ?_
      rw [Prediction.isDone, pending_of_mem_visited hq]
      simp
    change e.results.Perm (((e.predictions ++ x.visited l).filter Prediction.isDone).filterMap _)
    rw [List.filter_append, hnone, List.append_nil]
    exact h.results
  · intro haimed
    change ({ e with phase } : Evaluation).isAimed = true at haimed
    rw [open_] at haimed
    cases haimed

/-- A round that gets a goal by being settled gets that of its results. -/
theorem ofResults?_of_settled {goal : Goal} (before : e.goal? = none)
    (after : (s.settled e).goal? = some goal) :
    Goal.ofResults? s.scaler.config s.installed.metrics (s.settled e).results = some goal := by
  rw [settled] at after ⊢
  split at after
  · next complete =>
    rw [if_pos complete]
    simp only [aimed, Evaluation.withGoal] at after ⊢
    split at after
    · next found hgoal =>
      obtain rfl : found = goal := Option.some.inj after
      rw [hgoal]
    · cases after
  · rw [before] at after
    cases after

theorem ofResults?_of_received {goal : Goal} {forecast : Option Forecast}
    (before : e.goal? = none) (after : (s.received e i p forecast).goal? = some goal) :
    Goal.ofResults? s.scaler.config s.installed.metrics (s.received e i p forecast).results =
      some goal := by
  simp only [received] at after ⊢
  cases forecast with
  | none => exact ofResults?_of_settled before after
  | some f =>
    dsimp only at after ⊢
    split at after
    · exact absurd (before.symm.trans after) (by simp)
    · next reads =>
      rw [if_neg reads]
      exact ofResults?_of_settled before after

theorem Visits.ofResults?_of_goal {l : List (String × Nat)} {goal : Goal}
    (hv : s.Visits e l e') (before : e.goal? = none) (after : e'.goal? = some goal) :
    Goal.ofResults? s.scaler.config s.installed.metrics e'.results = some goal := by
  cases hv with
  | all =>
    refine ofResults?_of_settled ?_ after
    exact before
  | suspended _ _ _ => cases after

theorem Visits.follows {l : List (String × Nat)} (hv : s.Visits e l e')
    (h : e.Follows w s.scaler.config) (open_ : e.isAimed = false) :
    e'.Follows w s.scaler.config := by
  cases hv with
  | all => exact follows_settled (follows_visited h open_)
  | suspended _ _ _ => exact follows_visited h rfl

end Stage

namespace Controller

variable {c : Controller} {w : Answers} {id i : Nat} {e e' : Evaluation} {p : Prediction}

/-! ## One step -/

theorem prediction?_eq_some (found : c.evaluations.get? id = some e)
    (active : e.isAbandoned = false) (mem : e.predictions[i]? = some p) :
    c.prediction? id i = some p := by
  rw [prediction?, found, Option.bind_some, active]
  simpa using mem

theorem news?_of_brings {forecast : Option Forecast} (hp : c.prediction? id i = some p)
    (pending : p.phase = .pending) (opens : c.opening p = .brings forecast) :
    c.news? id (.event (.predictionStarts id i)) = some (.forecast p.key forecast) := by
  simp only [news?, if_true, hp, Option.bind_some, pending, opens]

theorem news?_of_answers {request : PredictRequest} {reply : Except PredictError PredictReply}
    (hp : c.prediction? id i = some p) (asking : p.phase = .asking request) :
    c.news? id (.event (.replyArrives id i reply)) =
      some (.forecast p.key (c.answered p request reply)) := by
  simp only [news?, if_true, hp, Option.bind_some, asking]

theorem news?_of_counts {forecast : Forecast} {count : Except SourceError Int32}
    (hp : c.prediction? id i = some p) (counting : p.phase = .counting forecast) :
    c.news? id (.event (.predictionCount id i count)) = some (.reading p.key count) := by
  simp only [news?, if_true, hp, Option.bind_some, counting]

/-- When a round advances, what it learns is what the answers say. -/
theorem Advances.follows {x : Happening} {scaler : Scaler} {issued : List Int32}
    (how : c.Advances id e x scaler e' issued) (found : c.evaluations.get? id = some e)
    (tells : ∀ news ∈ c.news? id x, w.Tells news) (h : e.Follows w c.scaler.config) :
    e'.Follows w c.scaler.config := by
  cases how with
  | abandoned => exact h.withPhase fun haimed => by cases haimed
  | @brings i p forecast mem active pending opens =>
    have hp := prediction?_eq_some found active mem
    obtain rfl : forecast = w.forecast p.key := tells _ (news?_of_brings hp pending opens)
    exact Stage.follows_received (s := c.stage) h mem (by rw [Prediction.isDone, pending])
  | @asks i p request mem _ pending _ =>
    exact h.setPrediction mem (by rw [Prediction.isDone, pending]) rfl fun _ hf => by cases hf
  | @answers i p request reply mem active asking =>
    have hp := prediction?_eq_some found active mem
    have hforecast : c.answered p request reply = w.forecast p.key :=
      tells _ (news?_of_answers hp asking)
    rw [hforecast]
    exact Stage.follows_received (s := c.stage) h mem (by rw [Prediction.isDone, asking])
  | @counts i p forecast count mem active counting =>
    have hp := prediction?_eq_some found active mem
    obtain rfl : count = w.reading p.key := tells _ (news?_of_counts hp counting)
    exact Stage.follows_counted (s := c.stage) h mem counting
  | resumes _ visits =>
    exact visits.follows (h.withPhase fun haimed => by cases haimed) rfl
  | unread reading =>
    exact h.withPhase fun _ => h.done_of_aimed (by rw [Evaluation.isAimed, reading])
  | rests reading _ =>
    exact h.withPhase fun _ => h.done_of_aimed (by rw [Evaluation.isAimed, reading])
  | sets reading _ =>
    exact h.withPhase fun _ => h.done_of_aimed (by rw [Evaluation.isAimed, reading])
  | ends setting =>
    exact h.withPhase fun _ => h.done_of_aimed (by rw [Evaluation.isAimed, setting])

/-- A goal that a round did not have is set with the metrics that are installed then. -/
theorem Advances.ofResults?_of_goal {x : Happening} {scaler : Scaler} {issued : List Int32}
    {goal : Goal} (how : c.Advances id e x scaler e' issued) (before : e.goal? = none)
    (after : e'.goal? = some goal) :
    Goal.ofResults? c.scaler.config c.store.metrics e'.results = some goal := by
  have hreading : ∀ {goal : Goal}, e.phase ≠ .reading goal := by
    intro goal h
    simp [Evaluation.goal?, h] at before
  cases how with
  | abandoned => cases after
  | brings _ _ _ _ => exact Stage.ofResults?_of_received (s := c.stage) before after
  | asks _ _ _ _ => exact absurd (before.symm.trans after) (by simp)
  | answers _ _ _ => exact Stage.ofResults?_of_received (s := c.stage) before after
  | counts _ _ _ => exact Stage.ofResults?_of_settled (s := c.stage) before after
  | resumes _ visits => exact visits.ofResults?_of_goal rfl after
  | unread reading => exact absurd reading hreading
  | rests reading _ => exact absurd reading hreading
  | sets reading _ => exact absurd reading hreading
  | ends _ => cases after

end Controller

/-- A round begins without any forecast. -/
theorem Evaluation.follows_start (w : Answers) (config : ScalerConfig) (owner : Option Nat)
    (registered : Nat) : (Evaluation.start owner registered).Follows w config := by
  refine ⟨?_, .refl _, ?_⟩
  · intro p hp
    cases hp
  · intro haimed
    cases haimed

/-- Throughout a tick the results are those of the forecasts that are done with. -/
theorem Tick.exists_follows {t : Tick} {w : Answers} (fit : w.Fit t) :
    ∃ e, t.round? = some e ∧ e.Follows w t.start.scaler.config := by
  refine t.exists_round (P := fun e _ => e.Follows w t.start.scaler.config) fit ?_ ?_
  · intro e visits
    exact visits.follows (Evaluation.follows_start w _ _ _) rfl
  · intro c x scaler e e' _ _ hconfig _ found tells h how
    rw [← hconfig] at h ⊢
    exact how.follows found tells h

end PredictiveScaling
