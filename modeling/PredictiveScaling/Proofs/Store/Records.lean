import PredictiveScaling.Proofs.Store.Coherence

/-!
# Records of trainings

A record is kept under the key of a predictor, and it tells which predictor was trained. It is
faithful if this is still the predictor that is registered under the key. Removing a metric takes
the records of its predictors away with them, so that a metric finds none when it is installed, and
whether the records stay faithful depends on what is trained alone.
-/
namespace PredictiveScaling.Store

/-- Every record is that of the predictor that is registered under its key. -/
def Faithful (s : Store) : Prop :=
  ∀ key r, s.trainings.find? key = some r → s.predictors.find? key = some r.predictor

/-- Predictors are registered under keys of installed metrics. -/
def Rooted (s : Store) : Prop :=
  ∀ key n, s.predictors.find? key = some n →
    ∃ metricKey, belongsTo metricKey key = true ∧ s.metrics.contains metricKey = true

/-- Trainings of some predictors go out at a time, one after the other. -/
def recordAll (s : Store) (time : Nat) (l : List (String × Nat)) : Store :=
  l.foldl (fun s p => s.recordTraining p.1 ⟨time, p.2⟩) s

variable {s : Store} {key metricKey : String} {n time : Nat} {r : TrainingRecord}
  {l : List (String × Nat)} {metric : Metric} {models : List InstalledModel}

theorem faithful_empty : empty.Faithful := nofun

theorem rooted_empty : empty.Rooted := nofun

/-- Without a record a training is due at any time. -/
theorem trainingDue_of_find?_eq_none (h : s.trainings.find? key = none) (interval : Duration)
    (now : Nat) : s.trainingDue key interval now = true := by
  rw [trainingDue, h]

/-! ## Recording -/

/-- Nothing else changes. -/
theorem recordAll_eq (s : Store) (time : Nat) (l : List (String × Nat)) :
    s.recordAll time l = { s with trainings := (s.recordAll time l).trainings } := by
  induction l generalizing s with
  | nil => rfl
  | cons p l ih => exact ih (s.recordTraining p.1 ⟨time, p.2⟩)

@[simp] theorem predictors_recordAll : (s.recordAll time l).predictors = s.predictors := by
  rw [recordAll_eq]

/-- The last training under a key counts. -/
theorem find?_trainings_recordAll (nodup : (l.map Prod.fst).Nodup) :
    (s.recordAll time l).trainings.find? key = some r ↔ (∃ n, (key, n) ∈ l ∧ r = ⟨time, n⟩) ∨
      key ∉ l.map Prod.fst ∧ s.trainings.find? key = some r := by
  induction l generalizing s with
  | nil => simp [recordAll]
  | cons p l ih =>
    obtain ⟨key', n'⟩ := p
    rw [List.map_cons, List.nodup_cons] at nodup
    obtain ⟨absent, nodup⟩ := nodup
    have hrest := ih (s := s.recordTraining key' ⟨time, n'⟩) nodup
    have hhead : (s.recordTraining key' ⟨time, n'⟩).trainings.find? key =
      if key' = key then some ⟨time, n'⟩ else s.trainings.find? key := KeyMap.find?_insert _ _ _ _
    rw [hhead] at hrest
    refine hrest.trans ?_
    by_cases same : key' = key
    · obtain rfl := same
      have hnone : ∀ n, (key', n) ∉ l := fun n mem => absent (List.mem_map.2 ⟨_, mem, rfl⟩)
      simp [hnone, absent, eq_comm]
    · simp [same, Ne.symm same]

/-- Under a key that is not among those of the trainings nothing is recorded. -/
theorem find?_trainings_recordAll_of_not_mem (absent : key ∉ l.map Prod.fst) :
    (s.recordAll time l).trainings.find? key = s.trainings.find? key := by
  induction l generalizing s with
  | nil => rfl
  | cons p l ih =>
    rw [List.map_cons, List.mem_cons, not_or] at absent
    exact (ih absent.2).trans (KeyMap.find?_insert_of_ne _ (Ne.symm absent.1) _)

/-- A record tells of a training, or it was there before. -/
theorem mem_or_of_find?_trainings_recordAll
    (h : (s.recordAll time l).trainings.find? key = some r) :
    (key, r.predictor) ∈ l ∨ s.trainings.find? key = some r := by
  induction l generalizing s with
  | nil => exact .inr h
  | cons p l ih =>
    rcases ih h with mem | found
    · exact .inl (List.mem_cons_of_mem _ mem)
    · have found : (s.trainings.insert p.1 ⟨time, p.2⟩).find? key = some r := found
      rw [KeyMap.find?_insert] at found
      split at found
      · next same =>
        cases found
        exact .inl (same ▸ List.mem_cons_self)
      · exact .inr found

/-- What is trained has to be registered. -/
theorem Faithful.recordAll_iff (h : s.Faithful) (nodup : (l.map Prod.fst).Nodup) :
    (s.recordAll time l).Faithful ↔ ∀ p ∈ l, s.predictors.find? p.1 = some p.2 := by
  rw [Faithful, predictors_recordAll]
  constructor
  · intro faithful p mem
    exact faithful p.1 ⟨time, p.2⟩ ((find?_trainings_recordAll nodup).2 (.inl ⟨p.2, mem, rfl⟩))
  · intro registered key r found
    rcases (find?_trainings_recordAll nodup).1 found with ⟨n, mem, rfl⟩ | ⟨-, found⟩
    · exact registered (key, n) mem
    · exact h key r found

/-! ## Removing -/

theorem find?_trainings_remove (s : Store) (metricKey key : String) :
    (s.remove metricKey).trainings.find? key =
      if s.predictors.contains key = true ∧ belongsTo metricKey key = true then none
      else s.trainings.find? key := by
  rw [remove_eq, KeyMap.find?_foldl_erase]
  simp only [mem_dependents_iff]

theorem find?_trainings_of_remove (h : (s.remove metricKey).trainings.find? key = some r) :
    s.trainings.find? key = some r := by
  rw [find?_trainings_remove] at h
  split at h
  · cases h
  · exact h

/-- Records go with their predictors. -/
theorem Faithful.remove (h : s.Faithful) (metricKey : String) : (s.remove metricKey).Faithful := by
  intro key r found
  have registered := h key r (find?_trainings_of_remove found)
  rw [find?_trainings_remove] at found
  split at found
  · cases found
  next stays =>
    have other : ¬ belongsTo metricKey key = true :=
      fun belongs => stays ⟨KeyMap.contains_eq_of_find? registered, belongs⟩
    rw [find?_predictors_remove, if_neg other]
    exact registered

theorem Rooted.remove (h : s.Rooted) (metricKey : String) : (s.remove metricKey).Rooted := by
  intro key n found
  rw [find?_predictors_remove] at found
  split at found
  · cases found
  next other =>
    obtain ⟨root, belongs, installed⟩ := h key n found
    have hne : metricKey ≠ root := by
      rintro rfl
      exact other belongs
    refine ⟨root, belongs, ?_⟩
    rw [remove_eq, KeyMap.contains_erase, installed]
    simp [hne]

/-! ## Installing -/

theorem belongsTo_predictorKey (metric : Metric) (spec : ModelSpec) :
    belongsTo metric.key (metric.predictorKey spec.tag) = true :=
  belongsTo_eq_true_iff.2 ⟨_, splitPredictorKey?_predictorKey metric _ (keyMark_notMem_tag spec)⟩

@[simp] theorem trainings_install (s : Store) (metric : Metric) (collector loop : Nat)
    (models : List InstalledModel) :
    (s.install metric collector loop models).trainings = s.trainings := by
  rw [install_eq, foldl_putModel_eq]
  rfl

theorem find?_predictors_install_of_ne (collector loop : Nat) (h : ∀ m ∈ models, m.key ≠ key) :
    (s.install metric collector loop models).predictors.find? key = s.predictors.find? key := by
  rw [install_eq, foldl_putModel_eq]
  change (models.foldl (fun x m => x.insert m.key m.predictor) s.predictors).find? key = _
  generalize s.predictors = predictors
  induction models generalizing predictors with
  | nil => rfl
  | cons m models ih =>
    rw [List.forall_mem_cons] at h
    rw [List.foldl_cons, ih h.2, KeyMap.find?_insert_of_ne _ h.1]

theorem Rooted.install (h : s.Rooted) (collector loop : Nat)
    (own : ∀ m ∈ models, m.key = metric.predictorKey m.spec.tag) :
    (s.install metric collector loop models).Rooted := by
  intro key n found
  have hmetrics : (s.install metric collector loop models).metrics =
      s.metrics.insert metric.key metric := by
    rw [install_eq, foldl_putModel_eq]
    rfl
  rw [hmetrics]
  rcases find?_predictors_install found with ⟨m, mem, rfl, -⟩ | old
  · refine ⟨metric.key, ?_, by simp [KeyMap.contains]⟩
    rw [own m mem]
    exact belongsTo_predictorKey metric m.spec
  · obtain ⟨root, belongs, installed⟩ := h key n old
    refine ⟨root, belongs, ?_⟩
    rw [KeyMap.contains_insert, installed, Bool.or_true]

/-- A metric that was not there before finds no records. -/
theorem Faithful.install (h : s.Faithful) (rooted : s.Rooted)
    (fresh : s.metrics.contains metric.key = false) (collector loop : Nat)
    (own : ∀ m ∈ models, m.key = metric.predictorKey m.spec.tag) :
    (s.install metric collector loop models).Faithful := by
  intro key r found
  rw [trainings_install] at found
  have registered := h key r found
  rw [find?_predictors_install_of_ne collector loop]
  · exact registered
  · rintro m mem rfl
    obtain ⟨root, belongs, installed⟩ := rooted m.key _ registered
    rw [own m mem, belongsTo, splitPredictorKey?_predictorKey metric _
      (keyMark_notMem_tag m.spec), Option.map_some, beq_iff_eq] at belongs
    cases belongs
    cases fresh.symm.trans installed

end PredictiveScaling.Store
