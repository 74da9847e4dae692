import PredictiveScaling.Proofs.Controller.Notes

/-!
# The pace of a controller

What a controller does is a step at the desk of each of its predictors (`Controller.steps_noted`). A
round calls for the training of a predictor that it comes to if that is due, and what has gone out
is recorded. Whatever rounds there are beside each other and however their calls end, the trainings
of a predictor keep the pace that its model asks for, as long as its metric is not replaced
(`Controller.trainings_paced`).
-/
namespace PredictiveScaling

/-! ## A predictor that stays -/

namespace Store

variable {s s' : Store} {m : Metric} {spec : ModelSpec} {n : Nat}

/-- A predictor is registered together with its metric and its model. -/
structure Registered (s : Store) (m : Metric) (spec : ModelSpec) (n : Nat) : Prop where
  metric : s.metrics.find? m.key = some m
  model : s.models.find? (m.predictorKey spec.tag) = some spec
  predictor : s.predictors.find? (m.predictorKey spec.tag) = some n

theorem Registered.resolve (h : s.Registered m spec n) :
    s.resolve (m.predictorKey spec.tag) = .ok (spec, m) := by
  rw [Store.resolve, h.model, splitPredictorKey?_predictorKey m _ (keyMark_notMem_tag spec)]
  dsimp only
  rw [h.metric]

theorem Registered.of_agreesOn (h : s.Registered m spec n) (agrees : s.AgreesOn s' m) :
    s'.Registered m spec n :=
  ⟨agrees.metrics.trans h.metric, (agrees.models spec).trans h.model,
    (agrees.predictors spec).trans h.predictor⟩

end Store

namespace Controller

variable {c c' : Controller} {m : Metric} {spec : ModelSpec} {n id : Nat} {key : String} {p : Pace}
  {free : Prop} {e : Evaluation} {rest : List (String × Nat)}

theorem find?_trainings_remove_of_ne (c : Controller) {metricKey : String}
    (ne : m.key ≠ metricKey) :
    (c.remove metricKey).store.trainings.find? (m.predictorKey spec.tag) =
      c.store.trainings.find? (m.predictorKey spec.tag) := by
  rw [store_remove, Store.find?_trainings_remove, if_neg]
  exact fun own => ne ((Store.belongsTo_predictorKey_iff spec).1 own.2)

/-- What replaces another metric leaves alone what is under the keys of this one. -/
theorem registered_of_replaces (h : c.store.Registered m spec n) {x : Turn} {replaced : String}
    (replaces : x.replaces? = some replaced) (ne : m.key ≠ replaced) :
    (c.takes x).store.Registered m spec n ∧
      (c.takes x).store.trainings.find? (m.predictorKey spec.tag) =
        c.store.trainings.find? (m.predictorKey spec.tag) := by
  cases x with
  | remove metricKey =>
    obtain rfl := Option.some.inj replaces
    refine ⟨h.of_agreesOn ?_, c.find?_trainings_remove_of_ne ne⟩
    rw [takes, store_remove]
    exact Store.agreesOn_remove ne c.store
  | install metric specs config =>
    obtain rfl := Option.some.inj replaces
    have registered := h.of_agreesOn (agreesOn_cleared ne c)
    have recorded : (c.cleared metric.key).store.trainings.find? (m.predictorKey spec.tag) =
        c.store.trainings.find? (m.predictorKey spec.tag) := by
      rw [cleared]
      split
      · exact c.find?_trainings_remove_of_ne ne
      · rfl
    rw [takes]
    rcases c.install_cases metric specs config with
      same | ⟨collector, loop, models, hstore, own, -⟩
    · rw [same]
      exact ⟨registered, recorded⟩
    · rw [hstore, Store.trainings_install]
      refine ⟨registered.of_agreesOn ?_, recorded⟩
      exact Store.agreesOn_install ne _ collector loop fun x hx => (own x hx).1
  | _ => cases replaces

/-- Turns keep what is registered unless they replace it. -/
theorem registered_takes (h : c.store.Registered m spec n) {x : Turn}
    (kept : x.replaces? ≠ some m.key) : (c.takes x).store.Registered m spec n := by
  cases replaces : x.replaces? with
  | none =>
    rw [store_takes replaces, Store.recordAll_eq]
    exact ⟨h.metric, h.model, h.predictor⟩
  | some replaced =>
    refine (registered_of_replaces h replaces ?_).1
    rintro rfl
    exact kept replaces

/-! ## Moves -/

/-- A predictor is registered, and rounds that have its key before them mean this predictor. -/
structure Holds (c : Controller) (m : Metric) (spec : ModelSpec) (n : Nat) : Prop where
  registered : c.store.Registered m spec n
  orderly : c.Orderly
  exclusive : c.traffic.Exclusive
  own : ∀ id e, c.evaluations.get? id = some e →
    ∀ n', (m.predictorKey spec.tag, n') ∈ e.ahead → n' = n

theorem Holds.makes (h : c.Holds m spec n) {x : Move} (kept : x.replaces? ≠ some m.key) :
    (c.makes x).Holds m spec n := by
  refine ⟨?_, h.orderly.makes x, exclusive_makes h.exclusive x, ?_⟩
  · cases x with
    | turn x => exact registered_takes h.registered kept
    | spawn => exact h.registered
  · cases x with
    | turn x =>
      obtain ⟨happening, effect⟩ := c.effect_takes x
      refine effect.ahead (P := fun l => ∀ n', (m.predictorKey spec.tag, n') ∈ l → n' = n)
        (fun sub own n' mem => own n' (sub.subset mem)) (fun n' mem => ?_) h.own
      have found := (KeyMap.mem_entries_iff _ _ _).1 mem
      exact Option.some.inj (found.symm.trans h.registered.predictor)
    | spawn => exact h.own

theorem Holds.eq_of_agenda (h : c.Holds m spec n) {j n' : Nat} {l : List (String × Nat)}
    (agenda : c.agenda j = some (some l)) (mem : (m.predictorKey spec.tag, n') ∈ l) : n' = n := by
  obtain ⟨e, found, before⟩ := Option.map_eq_some_iff.1 agenda
  refine h.own j e found n' ?_
  rw [Evaluation.ahead_eq, before]
  exact mem

theorem sending_of_agenda {j : Nat} (agenda : c.agenda j = some (some ((key, n) :: rest))) :
    c.traffic.sending j = some n := by
  rw [sending_traffic, agenda]
  rfl

/-- While the model is at rest, no round is sending. -/
theorem Holds.not_sending (h : c.Holds m spec n) (resting : c.traffic.training n = false)
    (j : Nat) : (c.desk (m.predictorKey spec.tag)).place j ≠ .sending := by
  intro sending
  obtain ⟨n', rest, agenda⟩ := exists_of_placeOf_eq_sending sending
  obtain rfl := h.eq_of_agenda agenda List.mem_cons_self
  cases resting.symm.trans (h.exclusive.training_of_sending j n' (sending_of_agenda agenda))

/-- A step at the desk, with what is noted about the predictor. -/
def Steps (c : Controller) (key : String) (p : Pace) (notes : List TrainingEntry)
    (c' : Controller) : Prop :=
  (c.desk key).Step p key c.now.steady (notes.filter fun x => x.key = key) (c'.desk key)

theorem Steps.rests (same : c'.desk key = c.desk key) {notes : List TrainingEntry}
    (silent : notes.filter (fun x => x.key = key) = []) : c.Steps key p notes c' := by
  rw [Steps, same, silent]
  exact .rests

theorem desk_update {a : Option (Option (List (String × Nat)))} {last : Option Nat}
    (agenda : c'.agenda = Function.update c.agenda id a) (hlast : (c'.desk key).last = last) :
    c'.desk key = ⟨last, Function.update (c.desk key).place id (placeOf key a)⟩ := by
  rw [← hlast, desk, desk, agenda]
  refine congrArg (Desk.mk _) (funext fun j => ?_)
  rw [Function.update_apply, Function.update_apply]
  split <;> rfl

/-- A round that was on its way to the predictor gets further. -/
theorem Steps.visits {notes : List TrainingEntry} {c'' : Controller}
    {a : Option (Option (List (String × Nat)))}
    (ahead : (c.desk key).place id = .unborn ∨ (c.desk key).place id = .coming)
    (agenda : c'.agenda = Function.update c.agenda id a) (steady : c'.now.steady = c.now.steady)
    (last : (c'.desk key).last = (c.desk key).last)
    (reaches : c'.Reaches key p id (∀ j, (c.desk key).place j ≠ .sending) notes c'') :
    c.Steps key p notes c'' := by
  obtain ⟨⟨a', hagenda, reach⟩, hlast⟩ := reaches
  rw [steady, last] at reach
  rw [last] at hlast
  rw [agenda, Function.update_idem] at hagenda
  rw [Steps, desk_update hagenda hlast]
  exact .visits ahead reach

theorem steps_firstWalk (h : c.Holds m spec n) (owner : Option Nat) :
    c.Steps (m.predictorKey spec.tag) spec.pace (c.firstWalk owner).notes
      (c.beginEvaluation owner) := by
  have unborn : (c.desk (m.predictorKey spec.tag)).place c.nextEvaluation = .unborn :=
    congrArg (placeOf _) (agenda_of_size_le (Nat.le_refl _))
  have begins : (c.begun owner).agenda = _ := agenda_of_push rfl
  refine .visits (.inl unborn) begins rfl rfl ?_
  refine reaches_visit (Arena.get?_push_self _ _) rfl h.registered.resolve h.not_sending
    c.store.predictors.nodup_keys ?_
  exact (KeyMap.mem_entries_iff _ _ _).2 h.registered.predictor

/-- The wait for the request of this predictor is over. -/
theorem steps_answered (found : c.evaluations.get? id = some e) {n' : Nat} {d : Dispatch}
    (dispatching : e.phase = .dispatching key n' d rest) (once : key ∉ rest.map Prod.fst)
    (result : Except PredictError Unit) :
    c.Steps key p
      (Walk.notes ⟨c.resumed id e key n' d result, id, rest, some ((key, n'), result)⟩)
      (c.resumeVisit id e key n' d rest result) := by
  have sending : (c.desk key).place id = .sending := by
    rw [desk]
    dsimp only
    rw [agenda_of_get? found, Evaluation.agenda?, dispatching]
    exact if_pos rfl
  have found₁ := get?_of_stage_eq_put found (c.stage_resumed id e key n' d result)
  obtain ⟨hstore, hsteady⟩ := Prod.mk.inj (c.booking_resumed id e key n' d result)
  obtain ⟨⟨a, hagenda, hplace⟩, hnotes, htrainings⟩ :=
    visit_of_notMem found₁ rfl once c.now.steady
  rw [agenda_resumed found, Function.update_idem] at hagenda
  have last : (((c.resumed id e key n' d result).visit id rest).desk key).last =
      lastRecorded (c.desk key).last [⟨id, key, c.now.steady, .answered result⟩] := by
    rw [lastTraining_eq htrainings, desk]
    dsimp only
    rw [lastTraining, hstore]
    cases result with
    | ok u => exact congrArg (Option.map _) (KeyMap.find?_insert_self _ _ _)
    | error error => rfl
  rw [Steps, resumeVisit, desk_update hagenda last, hplace, Walk.notes, hsteady]
  dsimp only
  rw [filter_noted, hnotes]
  exact .answers sending result

/-- The wait for the request of another predictor is over. -/
theorem steps_passed (h : c.Holds m spec n) (found : c.evaluations.get? id = some e) {k : String}
    {n' : Nat} {d : Dispatch} (dispatching : e.phase = .dispatching k n' d rest)
    (other : k ≠ m.predictorKey spec.tag) (once : (rest.map Prod.fst).Nodup)
    (result : Except PredictError Unit) :
    c.Steps (m.predictorKey spec.tag) spec.pace
      (Walk.notes ⟨c.resumed id e k n' d result, id, rest, some ((k, n'), result)⟩)
      (c.resumeVisit id e k n' d rest result) := by
  rw [resumeVisit]
  have hresolve := h.registered.resolve
  have own : ∀ {j n₀ l}, c.agenda j = some (some l) → (m.predictorKey spec.tag, n₀) ∈ l → n₀ = n :=
    fun agenda mem => h.eq_of_agenda agenda mem
  generalize m.predictorKey spec.tag = key at other hresolve own ⊢
  have before : c.agenda id = some (some ((k, n') :: rest)) := by
    rw [agenda_of_get? found, Evaluation.agenda?, dispatching]
  have agenda₁ := agenda_resumed found k n' d result
  have found₁ := get?_of_stage_eq_put found (c.stage_resumed id e k n' d result)
  have exclusive₁ := exclusive_resumed h.exclusive found dispatching result
  obtain ⟨hstore, hsteady⟩ := Prod.mk.inj (c.booking_resumed id e k n' d result)
  generalize c.resumed id e k n' d result = c₁ at *
  have absent : key ∉ (sent (some ((k, n'), result))).map Prod.fst := by
    cases result with
    | ok u => simpa [sent] using Ne.symm other
    | error error => exact List.not_mem_nil
  have hlast : (c₁.desk key).last = (c.desk key).last := by
    refine lastTraining_eq ?_
    rw [hstore]
    exact Store.find?_trainings_recordAll_of_not_mem absent
  have resolved : c₁.store.resolve key = .ok (spec, m) := by
    rw [hstore, Store.recordAll_eq]
    exact hresolve
  by_cases mem : key ∈ rest.map Prod.fst
  · have coming : (c.desk key).place id = .coming := by
      rw [desk]
      dsimp only
      rw [before, placeOf, if_neg other, if_pos mem]
    have mem : (key, n) ∈ rest := by
      obtain ⟨⟨k', n₀⟩, mem', same⟩ := List.mem_map.1 mem
      obtain rfl : k' = key := same
      exact own before (List.mem_cons_of_mem _ mem') ▸ mem'
    have reaches : c₁.Reaches key spec.pace id (∀ j, (c.desk key).place j ≠ .sending)
        (notesOf id c₁.now.steady (c₁.visited id rest)) (c₁.visit id rest) := by
      refine reaches_visit found₁ rfl resolved (fun resting j sending => ?_) once mem
      -- another round that is sending now has been sending before the wait was over
      obtain ⟨n₀, rest', hagenda⟩ := exists_of_placeOf_eq_sending sending
      obtain rfl := own hagenda List.mem_cons_self
      have ne : j ≠ id := by
        rintro rfl
        cases before.symm.trans hagenda
        exact other rfl
      have hagenda₁ : c₁.agenda j = some (some ((key, n₀) :: rest')) := by
        rw [agenda₁, Function.update_of_ne ne, hagenda]
      cases resting.symm.trans (exclusive₁.training_of_sending j n₀ (sending_of_agenda hagenda₁))
    have step := Steps.visits (.inr coming) agenda₁ hsteady hlast reaches
    rw [Steps] at step ⊢
    rw [Walk.notes]
    dsimp only
    rwa [filter_passed other]
  · obtain ⟨⟨a, hagenda, hplace⟩, hnotes, htrainings⟩ :=
      visit_of_notMem found₁ rfl mem c₁.now.steady
    rw [agenda₁, Function.update_idem] at hagenda
    have last : ((c₁.visit id rest).desk key).last = (c.desk key).last :=
      (lastTraining_eq htrainings).trans hlast
    have past : (c.desk key).place id = .past := by
      rw [desk]
      dsimp only
      rw [before]
      refine placeOf_of_notMem ?_
      rw [List.map_cons, List.mem_cons, not_or]
      exact ⟨Ne.symm other, mem⟩
    refine .rests ?_ ((filter_passed other _).trans hnotes)
    rw [desk_update hagenda last, hplace, ← past, Function.update_eq_self]

/-- And so does one that leads to a visit, with what is noted on it. -/
theorem Leads.steps {x : Turn} {w : Walk} (leads : c.Leads x w) (h : c.Holds m spec n) :
    c.Steps (m.predictorKey spec.tag) spec.pace w.notes (c.takes x) := by
  rw [leads.takes_eq]
  cases leads with
  | evaluates => exact steps_firstWalk h none
  | @ticks id l =>
    exact steps_firstWalk (c := c.ticked id l)
      ⟨h.registered, ⟨h.orderly.rooted, h.orderly.made, h.orderly.once⟩, h.exclusive, h.own⟩ _
  | @goesOn id n' result e k d rest found dispatching =>
    have once := h.orderly.once id e found
    rw [Evaluation.ahead, dispatching, List.map_cons, List.nodup_cons] at once
    by_cases same : k = m.predictorKey spec.tag
    · subst same
      exact steps_answered found dispatching once.1 result
    · exact steps_passed h found dispatching same once.2 result

theorem Holds.move (h : c.Holds m spec n) {x : Moment × Move}
    (kept : x.2.replaces? ≠ some m.key) : (c.move x).1.Holds m spec n := by
  have now : (c.asOf x.1).Holds m spec n :=
    ⟨h.registered, ⟨h.orderly.rooted, h.orderly.made, h.orderly.once⟩, h.exclusive, h.own⟩
  have after := now.makes kept
  exact ⟨after.registered, ⟨after.orderly.rooted, after.orderly.made, after.orderly.once⟩,
    after.exclusive, after.own⟩

end Controller

end PredictiveScaling
