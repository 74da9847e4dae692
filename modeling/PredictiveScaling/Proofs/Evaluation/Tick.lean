import PredictiveScaling.Proofs.Evaluation.Advance

/-!
# Ticks

A tick is a round from its beginning up to some moment, whatever else happens to the
controller in the meantime. What a round learns on its way is told by the happenings; the
answers of its surroundings say all of it at once, so that two ticks can be compared. What
holds when a round begins and is kept when it advances holds throughout the tick.
-/
namespace PredictiveScaling

deriving instance DecidableEq for Forecast

instance instDecidableEqExcept {ε α : Type} [DecidableEq ε] [DecidableEq α] :
    DecidableEq (Except ε α)
  | .ok a, .ok b => decidable_of_iff (a = b) (by rw [Except.ok.injEq])
  | .error a, .error b => decidable_of_iff (a = b) (by rw [Except.error.injEq])
  | .ok _, .error _ => isFalse nofun
  | .error _, .ok _ => isFalse nofun

/-! ## News -/

/-- What a round learns. -/
inductive News where
  /-- The forecast under a key has come, or cannot be had. -/
  | forecast (key : String) (forecast : Option Forecast)
  /-- The current count, read for the forecast under a key. -/
  | reading (key : String) (count : Except SourceError Int32)
  | goalReading (count : Except SourceError Int32)
  | goalSetting (result : Except SourceError Unit)
deriving DecidableEq

/-- The forecast of a round with this number, unless the round was given up. -/
def Controller.prediction? (c : Controller) (id i : Nat) : Option Prediction :=
  (c.evaluations.get? id).bind fun e => if e.isAbandoned then none else e.predictions[i]?

/-- What an event tells a round, if it tells it something. -/
def Controller.news? (c : Controller) (id : Nat) : Happening → Option News
  | .event (.predictionStarts round i) =>
    if round = id then (c.prediction? id i).bind fun p =>
      match p.phase, c.opening p with
      | .pending, .brings forecast => some (.forecast p.key forecast)
      | _, _ => none
    else none
  | .event (.replyArrives round i reply) =>
    if round = id then (c.prediction? id i).bind fun p =>
      match p.phase with
      | .asking request => some (.forecast p.key (c.answered p request reply))
      | _ => none
    else none
  | .event (.predictionCount round i count) =>
    if round = id then (c.prediction? id i).bind fun p =>
      match p.phase with
      | .counting _ => some (.reading p.key count)
      | _ => none
    else none
  | .event (.goalCount round count) => if round = id then some (.goalReading count) else none
  | .event (.goalSet round result) => if round = id then some (.goalSetting result) else none
  | _ => none

/-- All that the surroundings of a round answer: the forecasts by their keys, and what comes
of reading and setting the count. -/
structure Answers where
  forecast : String → Option Forecast
  reading : String → Except SourceError Int32
  goalReading : Except SourceError Int32
  goalSetting : Except SourceError Unit

namespace Answers

/-- The news are what the answers say. -/
def Tells (w : Answers) : News → Prop
  | .forecast key forecast => forecast = w.forecast key
  | .reading key count => count = w.reading key
  | .goalReading count => count = w.goalReading
  | .goalSetting result => result = w.goalSetting

instance (w : Answers) (x : News) : Decidable (w.Tells x) :=
  match x with
  | .forecast key forecast => inferInstanceAs (Decidable (forecast = w.forecast key))
  | .reading key count => inferInstanceAs (Decidable (count = w.reading key))
  | .goalReading count => inferInstanceAs (Decidable (count = w.goalReading))
  | .goalSetting result => inferInstanceAs (Decidable (result = w.goalSetting))

/-- Predictors answer like this, and the orchestrator holds a count and sets any other. -/
def ofCount (forecast : String → Option Forecast) (n : Int32) : Answers :=
  ⟨forecast, fun _ => .ok n, .ok n, .ok ()⟩

end Answers

/-! ## Runs -/

/-- The counts that were set for a round. -/
def countsFor (id : Nat) (calls : List Call) : List Int32 :=
  (calls.filterMap Call.set?).filterMap fun s => if s.1 = id then some s.2 else none

/-- Let one thing happen at its time; the calls are added to those that were made before. -/
def Controller.pass (s : Controller × List Call) (x : Moment × Happening) :
    Controller × List Call :=
  let (c, calls) := (s.1.perform x.1 fun c => ((), c.undergo x.2)).2
  (c, s.2 ++ calls)

/-- A round from its beginning, and what happens afterwards. -/
structure Tick where
  start : Controller
  /-- The loop that waits for the round. -/
  owner : Option Nat
  now : Moment
  course : List (Moment × Happening)

namespace Tick

def id (t : Tick) : Nat := t.start.nextEvaluation

/-- When the round has begun. -/
def begun (t : Tick) : Controller × List Call :=
  (t.start.perform t.now fun c => ((), c.beginEvaluation t.owner)).2

/-- After all that happens. -/
def reached (t : Tick) : Controller × List Call := t.course.foldl Controller.pass t.begun

def round? (t : Tick) : Option Evaluation := t.reached.1.evaluations.get? t.id

def report? (t : Tick) : Option EvaluationReport := t.round?.bind Evaluation.report?

/-- The counts that were set for the round. -/
def issued (t : Tick) : List Int32 := countsFor t.id t.reached.2

/-- Nothing is installed or removed in the meantime. -/
def Undisturbed (t : Tick) : Prop := ∀ x ∈ t.course, x.2.Inner

/-- The tick with one more thing that happens. -/
def snoc (t : Tick) (x : Moment × Happening) : Tick := { t with course := t.course ++ [x] }

end Tick

/-- What happens tells a round nothing but what the answers say. -/
def Answers.FitAlong (w : Answers) (id : Nat) (s : Controller × List Call) :
    List (Moment × Happening) → Prop
  | [] => True
  | x :: xs => (∀ news ∈ s.1.news? id x.2, w.Tells news) ∧ w.FitAlong id (Controller.pass s x) xs

instance decidableFitAlong (w : Answers) (id : Nat) (s : Controller × List Call) :
    (xs : List (Moment × Happening)) → Decidable (w.FitAlong id s xs)
  | [] => .isTrue trivial
  | x :: xs =>
    have := decidableFitAlong w id (Controller.pass s x) xs
    inferInstanceAs (Decidable (_ ∧ w.FitAlong id (Controller.pass s x) xs))

/-- The surroundings of the round answer like this. -/
def Answers.Fit (w : Answers) (t : Tick) : Prop := w.FitAlong t.id t.begun t.course

instance (w : Answers) (t : Tick) : Decidable (w.Fit t) :=
  inferInstanceAs (Decidable (w.FitAlong _ _ _))

/-! ## One thing after the other -/

theorem countsFor_append (id : Nat) (calls calls' : List Call) :
    countsFor id (calls ++ calls') = countsFor id calls ++ countsFor id calls' := by
  simp only [countsFor, List.filterMap_append]

/-- What one round sets counts for that round and for no other. -/
theorem counts_of_round (id id' : Nat) (issued : List Int32) :
    (issued.map fun n => (id', n)).filterMap (fun s => if s.1 = id then some s.2 else none) =
      if id' = id then issued else [] := by
  induction issued with
  | nil => simp
  | cons n issued ih =>
    by_cases own : id' = id
    · rw [if_pos own] at ih
      simp only [List.map_cons, List.filterMap_cons, if_pos own, ih]
    · rw [if_neg own] at ih
      simp only [List.map_cons, List.filterMap_cons, if_neg own, ih]

/-- When something happens, a round stays as it is or advances. The scaler is then that of the
round that has advanced. -/
theorem pass_cases {s : Controller × List Call} {x : Moment × Happening} {id : Nat}
    {e : Evaluation} (found : s.1.evaluations.get? id = some e) :
    ∃ e' more, (Controller.pass s x).1.evaluations.get? id = some e' ∧
      countsFor id (Controller.pass s x).2 = countsFor id s.2 ++ more ∧
      (e' = e ∧ more = [] ∧ ((Controller.pass s x).1.scaler = s.1.scaler ∨
          ∃ other e₁ e₁' issued, other ≠ id ∧
            Controller.Advances { s.1 with now := x.1, outbox := [] } other e₁ x.2
              (Controller.pass s x).1.scaler e₁' issued) ∨
        Controller.Advances { s.1 with now := x.1, outbox := [] } id e x.2
          (Controller.pass s x).1.scaler e' more) := by
  have effect := Controller.effect_undergo { s.1 with now := x.1, outbox := [] } x.2
  have hevaluations : (Controller.pass s x).1.evaluations =
      (Controller.undergo { s.1 with now := x.1, outbox := [] } x.2).stage.evaluations := rfl
  have hscaler : (Controller.pass s x).1.scaler =
      (Controller.undergo { s.1 with now := x.1, outbox := [] } x.2).stage.scaler := rfl
  have hcounts : countsFor id (Controller.pass s x).2 = countsFor id s.2 ++
      (Controller.undergo { s.1 with now := x.1, outbox := [] } x.2).stage.sets.filterMap
        fun s => if s.1 = id then some s.2 else none := by
    rw [Controller.pass, Controller.perform]
    exact countsFor_append id _ _
  rw [hevaluations, hcounts, hscaler]
  generalize (Controller.undergo { s.1 with now := x.1, outbox := [] } x.2).stage = stage
    at effect ⊢
  cases effect with
  | keeps => exact ⟨e, [], found, rfl, .inl ⟨rfl, rfl, .inl rfl⟩⟩
  | installs _ _ => exact ⟨e, [], found, rfl, .inl ⟨rfl, rfl, .inl rfl⟩⟩
  | begins _ =>
    refine ⟨e, [], ?_, rfl, .inl ⟨rfl, rfl, .inl rfl⟩⟩
    exact (Arena.get?_push_of_lt _ _ (Arena.lt_size_of_get? found)).trans found
  | @advances id' e₁ e₁' scaler issued found' how =>
    by_cases hid : id' = id
    · subst hid
      obtain rfl : e = e₁ := Option.some.inj (found.symm.trans found')
      refine ⟨e₁', issued, ?_, ?_, .inr how⟩
      · exact Controller.get?_setEvaluation found _
      · exact congrArg (countsFor id' s.2 ++ ·)
          ((counts_of_round id' id' issued).trans (if_pos rfl))
    · refine ⟨e, [], ?_, ?_, .inl ⟨rfl, rfl, .inr ⟨id', e₁, e₁', issued, hid, how⟩⟩⟩
      · exact (Arena.get?_modify_of_ne _ hid _).trans found
      · exact congrArg (countsFor id s.2 ++ ·) ((counts_of_round id id' issued).trans (if_neg hid))

/-- When something happens, a round stays as it is or advances. -/
theorem stays_or_advances {s : Controller × List Call} {x : Moment × Happening} {id : Nat}
    {e : Evaluation} (found : s.1.evaluations.get? id = some e) :
    ∃ e' more, (Controller.pass s x).1.evaluations.get? id = some e' ∧
      countsFor id (Controller.pass s x).2 = countsFor id s.2 ++ more ∧
      (e' = e ∧ more = [] ∨
        ∃ scaler, Controller.Advances { s.1 with now := x.1, outbox := [] } id e x.2 scaler e'
          more) := by
  obtain ⟨e', more, found', hcounts, ⟨same, nothing, _⟩ | how⟩ := pass_cases (x := x) found
  · exact ⟨e', more, found', hcounts, .inl ⟨same, nothing⟩⟩
  · exact ⟨e', more, found', hcounts, .inr ⟨_, how⟩⟩

theorem config_pass (s : Controller × List Call) (x : Moment × Happening) :
    (Controller.pass s x).1.scaler.config = s.1.scaler.config :=
  (Controller.effect_undergo { s.1 with now := x.1, outbox := [] } x.2).config_eq

theorem installed_pass {s : Controller × List Call} {x : Moment × Happening} (h : x.2.Inner) :
    (Controller.pass s x).1.store.installed = s.1.store.installed :=
  (Controller.effect_undergo { s.1 with now := x.1, outbox := [] } x.2).installed_eq h

/-! ## Whole ticks -/

namespace Tick

variable {t : Tick} {w : Answers}

theorem stage_begun (t : Tick) : ∃ e,
    t.begun.1.evaluations.get? t.id = some e ∧ countsFor t.id t.begun.2 = [] ∧
      t.begun.1.scaler = t.start.scaler ∧ t.begun.1.store.installed = t.start.store.installed ∧
      t.start.stage.Visits (.start t.owner t.start.store.predictors.toList.length)
        t.start.store.predictors.toList e := by
  obtain ⟨e, hstage, visits⟩ :=
    Controller.stage_beginEvaluation { t.start with now := t.now, outbox := [] } t.owner
  refine ⟨e, ?_, ?_, ?_, ?_, ?_⟩
  · have h := congrArg Stage.evaluations hstage
    exact (congrArg (Arena.get? · t.id) h).trans (Arena.get?_push_self _ _)
  · have h := congrArg Stage.sets hstage
    exact congrArg (List.filterMap fun s => if s.1 = t.id then some s.2 else none) h
  · exact congrArg Stage.scaler hstage
  · exact congrArg Stage.installed hstage
  · cases visits with
    | all => exact .all
    | suspended before d split => exact .suspended before d split

/-- What holds when the round begins and is kept by all that happens holds in the end. -/
theorem reached_induction {P : Controller × List Call → Prop} (begins : P t.begun)
    (keeps : ∀ s, P s → ∀ x ∈ t.course, P (Controller.pass s x)) : P t.reached :=
  List.foldlRecOn t.course Controller.pass begins keeps

theorem config_reached (t : Tick) : t.reached.1.scaler.config = t.start.scaler.config := by
  refine t.reached_induction (P := fun s => s.1.scaler.config = t.start.scaler.config) ?_ ?_
  · obtain ⟨_, _, _, hscaler, _⟩ := t.stage_begun
    rw [hscaler]
  · intro s hs x _
    rw [config_pass, hs]

/-- What is installed stays as it is while nothing disturbs the tick. -/
theorem installed_reached (calm : t.Undisturbed) :
    t.reached.1.store.installed = t.start.store.installed := by
  refine t.reached_induction
    (P := fun s => s.1.store.installed = t.start.store.installed) ?_ ?_
  · obtain ⟨_, _, _, _, hinstalled, _⟩ := t.stage_begun
    exact hinstalled
  · intro s hs x hx
    rw [installed_pass (calm x hx), hs]

/-- What holds when the round begins and is kept when it advances holds throughout. -/
theorem exists_round {P : Evaluation → List Int32 → Prop} (fit : w.Fit t)
    (begins : ∀ e, t.start.stage.Visits (.start t.owner t.start.store.predictors.toList.length)
      t.start.store.predictors.toList e → P e [])
    (advances : ∀ (c : Controller) x scaler e e' issued more,
      c.scaler.config = t.start.scaler.config →
      (t.Undisturbed → c.store.installed = t.start.store.installed) →
      c.evaluations.get? t.id = some e → (∀ news ∈ c.news? t.id x, w.Tells news) →
      P e issued → c.Advances t.id e x scaler e' more → P e' (issued ++ more)) :
    ∃ e, t.round? = some e ∧ P e t.issued := by
  -- from any moment on, along the rest of the course
  have along : ∀ (xs : List (Moment × Happening)) (s : Controller × List Call) (e : Evaluation),
      (∀ x ∈ xs, x ∈ t.course) → s.1.scaler.config = t.start.scaler.config →
      (t.Undisturbed → s.1.store.installed = t.start.store.installed) →
      s.1.evaluations.get? t.id = some e → w.FitAlong t.id s xs → P e (countsFor t.id s.2) →
      ∃ e, (xs.foldl Controller.pass s).1.evaluations.get? t.id = some e ∧
        P e (countsFor t.id (xs.foldl Controller.pass s).2) := by
    intro xs
    induction xs with
    | nil => exact fun s e _ _ _ found _ hp => ⟨e, found, hp⟩
    | cons x xs ih =>
      intro s e hmem hconfig hinstalled found hfit hp
      obtain ⟨e', more, found', hcounts, hnext⟩ := stays_or_advances (x := x) found
      rw [List.foldl_cons]
      refine ih _ e' (fun y hy => hmem y (List.mem_cons_of_mem _ hy)) ?_ ?_ found' hfit.2 ?_
      · rw [config_pass, hconfig]
      · intro undisturbed
        rw [installed_pass (undisturbed x (hmem x List.mem_cons_self)), hinstalled undisturbed]
      · rw [hcounts]
        rcases hnext with ⟨rfl, rfl⟩ | ⟨scaler, how⟩
        · rwa [List.append_nil]
        · exact advances { s.1 with now := x.1, outbox := [] } x.2 scaler e e' _ more hconfig
            hinstalled found hfit.1 hp how
  obtain ⟨e, found, hcounts, hscaler, hinstalled, visits⟩ := t.stage_begun
  refine along t.course t.begun e (fun _ h => h) ?_ (fun _ => hinstalled) found fit ?_
  · rw [hscaler]
  · rw [hcounts]
    exact begins e visits

end Tick

end PredictiveScaling
