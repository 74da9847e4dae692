import PredictiveScaling.Proofs.Controller.Moves
import PredictiveScaling.Proofs.Abstract.Pace

/-!
# Notes on trainings

What is to be noted of the trainings that rounds call for: what a visit comes to at a predictor, and
what has come of the request that a round has waited for (`Controller.noted`). A visit that is to
come to a predictor does so, attempts what is due, or has to wait before it
(`Controller.reaches_visit`).
-/
namespace PredictiveScaling

namespace Controller

/-! ## What is noted -/

/-- What is noted of what a visit comes to. -/
def Visited.note? : Visited → Option TrainingNote
  | .missing => none
  | .spared => some .spared
  | .refused error => some (.called (some (.error error)))
  | .trained => some (.called (some (.ok ())))
  | .sending _ => some (.called none)

/-- The notes on a visit of a round at a time. -/
def notesOf (id t : Nat) (xs : List ((String × Nat) × Visited)) : List TrainingEntry :=
  xs.filterMap fun x => x.2.note?.map fun note => ⟨id, x.1.1, t, note⟩

def Walk.notes (w : Walk) : List TrainingEntry :=
  let t := w.controller.now.steady
  let visit := notesOf w.round t (w.controller.visited w.round w.ahead)
  match w.answered? with
  | some ((key, _), result) => ⟨w.round, key, t, .answered result⟩ :: visit
  | none => visit

/-- Notes are about the predictors that are visited. -/
theorem key_of_mem_notesOf {c : Controller} {id t : Nat} {l : List (String × Nat)}
    {x : TrainingEntry} (mem : x ∈ notesOf id t (c.visited id l)) : x.key ∈ l.map Prod.fst := by
  obtain ⟨y, came, hy⟩ := List.mem_filterMap.1 mem
  obtain ⟨note, -, rfl⟩ := Option.map_eq_some_iff.1 hy
  exact List.mem_map_of_mem ((c.map_fst_visited_prefix id l).subset (List.mem_map_of_mem came))

end Controller

def ModelSpec.pace (spec : ModelSpec) : Pace := ⟨spec.needTrain, spec.updateInterval.millis⟩

namespace Controller

variable {c c' : Controller} {spec : ModelSpec} {n id : Nat} {key : String}

/-! ## The desk of a predictor -/

/-- Where a round is that has these predictors before it. -/
def placeOf (key : String) : Option (Option (List (String × Nat))) → Place
  | none => .unborn
  | some none => .dropped
  | some (some []) => .past
  | some (some ((k, _) :: rest)) =>
    if k = key then .sending else if key ∈ rest.map Prod.fst then .coming else .past

/-- When the last training went out under a key. -/
def lastTraining (c : Controller) (key : String) : Option Nat :=
  (c.store.trainings.find? key).map TrainingRecord.time

def desk (c : Controller) (key : String) : Desk where
  last := c.lastTraining key
  place id := placeOf key (c.agenda id)

theorem lastTraining_eq (trainings : c'.store.trainings.find? key = c.store.trainings.find? key) :
    (c'.desk key).last = (c.desk key).last :=
  congrArg (Option.map TrainingRecord.time) trainings

theorem lastTraining_of_store (store : c'.store = c.store) :
    (c'.desk key).last = (c.desk key).last :=
  lastTraining_eq (by rw [store])

theorem placeOf_of_notMem {l : List (String × Nat)} (absent : key ∉ l.map Prod.fst) :
    placeOf key (some (some l)) = .past := by
  cases l with
  | nil => rfl
  | cons x rest =>
    rw [List.map_cons, List.mem_cons, not_or] at absent
    rw [placeOf, if_neg (Ne.symm absent.1), if_neg absent.2]

theorem exists_of_placeOf_eq_sending {a : Option (Option (List (String × Nat)))}
    (h : placeOf key a = .sending) : ∃ n rest, a = some (some ((key, n) :: rest)) := by
  rw [placeOf.eq_def] at h
  split at h
  · cases h
  · cases h
  · cases h
  · split at h
    · next same => exact ⟨_, _, by rw [same]⟩
    · split at h <;> cases h

theorem due_iff : (spec.needTrain = true ∧ c.trainingDue key spec.updateInterval = true) ↔
    spec.pace.Due (c.desk key).last c.now.steady := by
  rw [trainingDue, Store.trainingDue, Pace.Due, desk, ModelSpec.pace]
  dsimp only
  rw [lastTraining]
  refine and_congr_right fun _ => ?_
  cases c.store.trainings.find? key with
  | none => simp
  | some r => simp

/-! ## Visits -/

/-- A visit that does not come to the predictor passes it by. -/
theorem visit_of_notMem {e : Evaluation} (found : c.evaluations.get? id = some e)
    (idle : e.agenda? = some []) {l : List (String × Nat)} (absent : key ∉ l.map Prod.fst)
    (t : Nat) :
    (∃ a, (c.visit id l).agenda = Function.update c.agenda id a ∧ placeOf key a = .past) ∧
    (notesOf id t (c.visited id l)).filter (fun x => x.key = key) = [] ∧
    (c.visit id l).store.trainings.find? key = c.store.trainings.find? key := by
  refine ⟨?_, ?_, ?_⟩
  · obtain ⟨e', hstage, visits⟩ := stage_visit (l := l) found
    refine ⟨some e'.agenda?, agenda_of_put found hstage, ?_⟩
    cases visits with
    | all =>
      rw [agenda_settled]
      exact congrArg (fun a => placeOf key (some a)) idle
    | suspended before d split =>
      refine placeOf_of_notMem fun mem => absent ?_
      rw [split, List.map_append]
      exact List.mem_append_right _ mem
  · refine List.filter_eq_nil_iff.2 fun x mem same => absent ?_
    rw [← of_decide_eq_true same]
    exact key_of_mem_notesOf mem
  · rw [store_visit]
    exact Store.find?_trainings_recordAll_of_not_mem (notMem_trains absent c id)

theorem filter_noted (id : Nat) (key : String) (t : Nat) (note : TrainingNote)
    (notes : List TrainingEntry) :
    ((⟨id, key, t, note⟩ : TrainingEntry) :: notes).filter (fun x => x.key = key) =
      ⟨id, key, t, note⟩ :: notes.filter fun x => x.key = key :=
  List.filter_cons_of_pos (by simp)

theorem filter_passed {x : TrainingEntry} (other : x.key ≠ key) (notes : List TrainingEntry) :
    (x :: notes).filter (fun x => x.key = key) = notes.filter fun x => x.key = key :=
  List.filter_cons_of_neg (by simpa using other)

/-- A visit comes to the predictor, or has to wait before it. -/
structure Reaches (c : Controller) (key : String) (p : Pace) (id : Nat) (free : Prop)
    (notes : List TrainingEntry) (c' : Controller) : Prop where
  exists_place : ∃ a, c'.agenda = Function.update c.agenda id a ∧
    Reach p id key c.now.steady (c.desk key).last free (notes.filter fun x => x.key = key)
      (placeOf key a)
  last_eq : (c'.desk key).last =
    lastRecorded (c.desk key).last (notes.filter fun x => x.key = key)

variable {p : Pace} {free : Prop} {e : Evaluation} {l rest : List (String × Nat)}

/-- The visit has come to the predictor and goes on. -/
theorem Reaches.comes {note : TrainingNote} (past : note.place = .past)
    (visit : note.isVisit = true)
    (attempt_iff : note.isAttempt = true ↔ p.Due (c.desk key).last c.now.steady)
    (free_of_recorded : note.answer? = some (.ok ()) → free)
    (found : c'.evaluations.get? id = some e) (idle : e.agenda? = some [])
    (agenda : c'.agenda = c.agenda)
    (last : (c'.desk key).last =
      lastRecorded (c.desk key).last [⟨id, key, c.now.steady, note⟩])
    (absent : key ∉ rest.map Prod.fst) :
    c.Reaches key p id free
      (⟨id, key, c.now.steady, note⟩ :: notesOf id c.now.steady (c'.visited id rest))
      (c'.visit id rest) := by
  obtain ⟨⟨a, hagenda, hplace⟩, hnotes, htrainings⟩ :=
    visit_of_notMem found idle absent c.now.steady
  have hfilter : ((⟨id, key, c.now.steady, note⟩ : TrainingEntry) ::
      notesOf id c.now.steady (c'.visited id rest)).filter (fun x => x.key = key) =
        [⟨id, key, c.now.steady, note⟩] := by
    rw [filter_noted, hnotes]
  refine ⟨⟨a, by rw [hagenda, agenda], ?_⟩, ?_⟩
  · rw [hfilter, hplace, ← past]
    refine .comes visit attempt_iff (fun sending => ?_) free_of_recorded
    cases past.symm.trans sending
  · rw [hfilter, ← last]
    exact lastTraining_eq htrainings

/-- A round goes on with its visit, and nothing has happened under the key. -/
structure GoesOn (c c' : Controller) (id : Nat) (key : String) : Prop where
  exists_round : ∃ e, c'.evaluations.get? id = some e ∧ e.agenda? = some []
  agenda : c'.agenda = c.agenda
  steady : c'.now.steady = c.now.steady
  resolve : c'.store.resolve key = c.store.resolve key
  last : (c'.desk key).last = (c.desk key).last
  training : c'.traffic.training = c.traffic.training

theorem GoesOn.trans {c'' : Controller} (h : c.GoesOn c' id key) (h' : c'.GoesOn c'' id key) :
    c.GoesOn c'' id key :=
  ⟨h'.exists_round, h'.agenda.trans h.agenda, h'.steady.trans h.steady,
    h'.resolve.trans h.resolve, h'.last.trans h.last, h'.training.trans h.training⟩

theorem GoesOn.of_booking (round : ∃ e, c'.evaluations.get? id = some e ∧ e.agenda? = some [])
    (agenda : c'.agenda = c.agenda) (booking : c'.booking = c.booking)
    (works : c'.workings = c.workings) : c.GoesOn c' id key := by
  obtain ⟨hstore, hsteady⟩ := Prod.mk.inj booking
  refine ⟨round, agenda, hsteady, ?_, lastTraining_of_store hstore, congrArg Prod.snd works⟩
  rw [hstore]

theorem goesOn_spawnPrediction (key : String) (found : c.evaluations.get? id = some e)
    (idle : e.agenda? = some []) (k : String) (predictor : Nat) (target : Float) :
    c.GoesOn (c.spawnPrediction id k predictor target) id key := by
  have hspawn := stage_spawnPrediction found k predictor target
  exact .of_booking ⟨_, get?_of_stage_eq_put found hspawn, idle⟩
    (agenda_of_put_of_eq found hspawn rfl)
    (overlooks_booking.spawnPrediction c id k predictor target)
    (overlooks_workings.spawnPrediction c id k predictor target)

theorem goesOn_of_refused (found : c.evaluations.get? id = some e) (idle : e.agenda? = some [])
    {predictor : Nat} {error : PredictError}
    (refused : c.beginTraining predictor = (.error error, c')) (same : c'.traffic = c.traffic) :
    c.GoesOn (c'.countFault error) id key := by
  have hstage := c.stage_beginTraining predictor
  have hbooking := overlooks_booking.beginTraining c predictor
  rw [refused] at hstage hbooking
  refine .of_booking ⟨e, ?_, idle⟩ (agenda_of_stage hstage) hbooking ?_
  · exact (congrArg (fun s : Stage => s.evaluations.get? id) hstage).trans found
  · exact congrArg (fun t : Traffic => (t.awaited, t.training)) same

/-- The visit has come to another predictor and goes on. -/
theorem Reaches.passes {c'' : Controller} {notes : List TrainingEntry} (on : c.GoesOn c' id key)
    {x : TrainingEntry} (other : x.key ≠ key) (later : c'.Reaches key p id free notes c'') :
    c.Reaches key p id free (x :: notes) c'' := by
  obtain ⟨⟨a, hagenda, reach⟩, hlast⟩ := later
  rw [on.agenda] at hagenda
  rw [on.steady, on.last] at reach
  rw [on.last] at hlast
  refine ⟨⟨a, hagenda, ?_⟩, ?_⟩
  · rwa [filter_passed other]
  · rwa [filter_passed other]

/-- The request of a training is on its way, and the round waits. -/
theorem suspendVisit_of_begins (key : String) (found : c.evaluations.get? id = some e) {k : String}
    {predictor : Nat} {d : Dispatch} (begins : c.beginTraining predictor = (.ok (some d), c'))
    (rest : List (String × Nat)) :
    (c'.suspendVisit id k predictor d rest).agenda =
      Function.update c.agenda id (some (some ((k, predictor) :: rest))) ∧
    ((c'.suspendVisit id k predictor d rest).desk key).last = (c.desk key).last := by
  have hstage := c.stage_beginTraining predictor
  have hbooking := overlooks_booking.beginTraining c predictor
  rw [begins] at hstage hbooking
  have found' := (congrArg (fun s : Stage => s.evaluations.get? id) hstage).trans found
  have hstore : (c'.suspendVisit id k predictor d rest).store = c.store :=
    congrArg Prod.fst ((overlooks_booking.suspendVisit c' id k predictor d rest).trans hbooking)
  constructor
  · rw [agenda_of_put found' (stage_suspendVisit found' k predictor d rest), agenda_of_stage hstage]
    rfl
  · exact lastTraining_of_store hstore

/-- The predictor is next in the visit. -/
theorem reaches_of_head {metric : Metric} (found : c.evaluations.get? id = some e)
    (idle : e.agenda? = some []) (resolved : c.store.resolve key = .ok (spec, metric))
    (free_of : c.traffic.training n = false → free) (once : key ∉ rest.map Prod.fst) :
    c.Reaches key spec.pace id free (notesOf id c.now.steady (c.visited id ((key, n) :: rest)))
      (c.visit id ((key, n) :: rest)) := by
  rw [visited, visit]
  have hcomes := c.comes_comeTo id key n
  generalize c.comeTo id key n = come at hcomes ⊢
  obtain ⟨unresolved⟩ | @⟨_, _, c₁, _, resolved', asked, calls⟩ := hcomes
  · cases resolved.symm.trans unresolved
  cases resolved.symm.trans resolved'
  have on := goesOn_spawnPrediction key found idle key n metric.target
  rw [asked] at on
  obtain ⟨e₁, found₁, idle₁⟩ := on.exists_round
  have due_iff : (spec.needTrain = true ∧ c₁.trainingDue key spec.updateInterval = true) ↔
      spec.pace.Due (c.desk key).last c.now.steady := by
    rw [due_iff, on.last, on.steady]
  have attempt {note : TrainingNote} (attempt : note.isAttempt = true)
      (due : spec.needTrain = true ∧ c₁.trainingDue key spec.updateInterval = true) :
      note.isAttempt = true ↔ spec.pace.Due (c.desk key).last c.now.steady :=
    iff_of_true attempt (due_iff.1 due)
  have hcalled := c₁.called_beginTraining n
  cases calls with
  | spared undue =>
    refine .comes rfl rfl (iff_of_false (by decide) (undue ∘ due_iff.2)) (fun recorded => ?_)
      found₁ idle₁ on.agenda on.last once
    cases recorded
  | refused due begins =>
    rw [begins] at hcalled
    cases hcalled with
    | refused unchanged =>
      have on₂ := on.trans (goesOn_of_refused found₁ idle₁ begins unchanged)
      obtain ⟨e₂, found₂, idle₂⟩ := on₂.exists_round
      refine .comes rfl rfl (attempt rfl due) (fun recorded => ?_) found₂ idle₂ on₂.agenda
        on₂.last once
      cases recorded
  | @trained c₂ due begins =>
    rw [begins] at hcalled
    cases hcalled with
    | done unserved =>
      rw [on.training] at unserved
      have records : ((c₁.recordTraining key n).desk key).last = some c.now.steady := by
        rw [← on.steady]
        exact congrArg (Option.map _) (KeyMap.find?_insert_self _ _ _)
      have found₂ : (c₁.recordTraining key n).evaluations.get? id = some e₁ := found₁
      have agenda : (c₁.recordTraining key n).agenda = c.agenda := on.agenda
      exact .comes rfl rfl (attempt rfl due) (fun _ => free_of unserved) found₂ idle₁ agenda
        records once
  | @sending d c₂ due begins =>
    rw [begins] at hcalled
    cases hcalled with
    | sent resting begun =>
      rw [on.training] at resting
      obtain ⟨hagenda, hlast⟩ := suspendVisit_of_begins key found₁ begins rest
      have hfilter : (notesOf id c.now.steady [((key, n), .sending d)]).filter
          (fun x => x.key = key) = [⟨id, key, c.now.steady, .called none⟩] :=
        filter_noted id key c.now.steady _ []
      refine ⟨⟨_, by rw [hagenda, on.agenda], ?_⟩, ?_⟩
      · dsimp only
        rw [hfilter, placeOf, if_pos rfl]
        refine .comes rfl (attempt rfl due) (fun _ => free_of resting) fun recorded => ?_
        cases recorded
      · dsimp only
        rw [hfilter, hlast, on.last]
        rfl

/-- A visit that is to come to the predictor does so, or has to wait before it. -/
theorem reaches_visit {metric : Metric} (found : c.evaluations.get? id = some e)
    (idle : e.agenda? = some []) (resolved : c.store.resolve key = .ok (spec, metric))
    (free_of : c.traffic.training n = false → free) (nodup : (l.map Prod.fst).Nodup)
    (mem : (key, n) ∈ l) :
    c.Reaches key spec.pace id free (notesOf id c.now.steady (c.visited id l)) (c.visit id l) := by
  induction l generalizing c e with
  | nil => cases mem
  | cons x rest ih =>
    obtain ⟨k, predictor⟩ := x
    rw [List.map_cons, List.nodup_cons] at nodup
    by_cases same : k = key
    · subst same
      obtain rfl : predictor = n := by
        rcases List.mem_cons.1 mem with same | later
        · exact (Prod.mk.inj same).2.symm
        · exact absurd (List.mem_map_of_mem later) nodup.1
      exact reaches_of_head found idle resolved free_of nodup.1
    · have mem : (key, n) ∈ rest := by
        rcases List.mem_cons.1 mem with head | mem
        · exact absurd (Prod.mk.inj head).1.symm same
        · exact mem
      rw [visited, visit]
      have hcomes := c.comes_comeTo id k predictor
      generalize c.comeTo id k predictor = come at hcomes ⊢
      cases hcomes with
      | missing => exact ih found idle resolved free_of nodup.2 mem
      | @called _ metric' c₁ _ _ asked calls =>
        have on := goesOn_spawnPrediction key found idle k predictor metric'.target
        rw [asked] at on
        -- the visit passes the other predictor and goes on from here
        have passes : ∀ {c₂ note}, c.GoesOn c₂ id key → c.Reaches key spec.pace id free
            (⟨id, k, c.now.steady, note⟩ :: notesOf id c.now.steady (c₂.visited id rest))
              (c₂.visit id rest) := by
          intro c₂ note on₂
          obtain ⟨e₂, found₂, idle₂⟩ := on₂.exists_round
          have later := ih found₂ idle₂ (on₂.resolve.trans resolved)
            (fun unserved => free_of (on₂.training ▸ unserved)) nodup.2 mem
          rw [on₂.steady] at later
          exact .passes on₂ same later
        obtain ⟨e₁, found₁, idle₁⟩ := on.exists_round
        have hcalled := c₁.called_beginTraining predictor
        cases calls with
        | spared => exact passes on
        | refused _ begins =>
          rw [begins] at hcalled
          cases hcalled with
          | refused unchanged =>
            exact passes (on.trans (goesOn_of_refused found₁ idle₁ begins unchanged))
        | @trained c₂ _ begins =>
          rw [begins] at hcalled
          cases hcalled with
          | done unserved =>
            have last : ((c₁.recordTraining k predictor).desk key).last = (c₁.desk key).last :=
              congrArg (Option.map _) (KeyMap.find?_insert_of_ne _ same _)
            exact passes (on.trans ⟨on.exists_round, rfl, rfl, rfl, last, rfl⟩)
        | @sending d c₂ _ begins =>
          obtain ⟨hagenda, hlast⟩ := suspendVisit_of_begins key found₁ begins rest
          have coming : placeOf key (some (some ((k, predictor) :: rest))) = .coming := by
            rw [placeOf, if_neg same, if_pos (List.mem_map_of_mem mem)]
          have hfilter : (notesOf id c.now.steady [((k, predictor), .sending d)]).filter
              (fun x => x.key = key) = [] :=
            filter_passed same []
          refine ⟨⟨_, by rw [hagenda, on.agenda], ?_⟩, ?_⟩
          · dsimp only
            rw [hfilter, coming]
            exact .waits
          · dsimp only
            rw [hfilter, hlast, on.last]
            rfl

end Controller

end PredictiveScaling
