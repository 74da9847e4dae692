import PredictiveScaling.Proofs.Store.Coherence

/-!
# What goes with a metric

Removing a metric goes through the predictors that are registered and takes the entries of three
maps out under their keys. In a coherent store this takes out what belongs to the metric and
nothing else (`Store.Coherent.remove_eq_sparing`), however keys begin and whatever they contain. So
to remove a metric that is not there changes nothing, and to remove one that was put in just now
brings back the store before (`Store.Coherent.remove_install`).
-/
namespace PredictiveScaling

namespace KeyMap

variable {κ α : Type}

theorem eq_of_entries {m m' : KeyMap κ α} (h : m.entries = m'.entries) : m = m' := by
  obtain ⟨entries, nodup⟩ := m
  subst h
  rfl

variable [DecidableEq κ] {m : KeyMap κ α} {p q : κ → Bool}

theorem contains_of_mem {e : κ × α} (h : e ∈ m.entries) : m.contains e.1 = true :=
  contains_eq_of_find? ((mem_entries_iff m e.1 e.2).1 h)

/-- What is kept depends on the keys that are there only. -/
theorem filterKeys_congr (h : ∀ k, m.contains k = true → p k = q k) :
    m.filterKeys p = m.filterKeys q :=
  eq_of_entries (List.filter_congr fun _ he => h _ (contains_of_mem he))

theorem filterKeys_eq_self (h : ∀ k, m.contains k = true → p k = true) : m.filterKeys p = m :=
  eq_of_entries (List.filter_eq_self.2 fun _ he => h _ (contains_of_mem he))

/-- An entry that is not kept might as well not be put in. -/
theorem filterKeys_insert {k : κ} (drops : p k = false) (m : KeyMap κ α) (v : α) :
    (m.insert k v).filterKeys p = m.filterKeys p := by
  refine eq_of_entries ?_
  change (insertEntry k v m.entries).filter (fun e => p e.1) = m.entries.filter fun e => p e.1
  generalize m.entries = l
  induction l with
  | nil => simp [insertEntry, drops]
  | cons e l ih =>
    rw [insertEntry]
    split
    · next same => simp [same, drops]
    · rw [List.filter_cons, List.filter_cons, ih]

theorem filterKeys_foldl_insert {β : Type} (key : β → κ) (value : β → α) {l : List β}
    (drops : ∀ b ∈ l, p (key b) = false) (m : KeyMap κ α) :
    (l.foldl (fun m b => m.insert (key b) (value b)) m).filterKeys p = m.filterKeys p := by
  induction l generalizing m with
  | nil => rfl
  | cons b l ih =>
    rw [List.forall_mem_cons] at drops
    rw [List.foldl_cons, ih drops.2, filterKeys_insert drops.1]

/-- Dropping keys one after the other keeps the others. -/
theorem foldl_erase_eq (ks : List κ) (m : KeyMap κ α) :
    ks.foldl erase m = m.filterKeys fun k => k ∉ ks := by
  induction ks generalizing m with
  | nil => exact (filterKeys_eq_self fun _ _ => by simp).symm
  | cons k ks ih =>
    rw [List.foldl_cons, ih]
    refine eq_of_entries ?_
    change (m.entries.filter _).filter _ = m.entries.filter _
    rw [List.filter_filter]
    exact List.filter_congr fun e _ => by simp [Bool.and_comm]

/-- Of the entries of a map exactly those with such keys are in the other one. -/
def Restricts (m m' : KeyMap κ α) (kept : κ → Prop) : Prop :=
  ∀ k v, m'.find? k = some v ↔ m.find? k = some v ∧ kept k

theorem restricts_filterKeys {kept : κ → Prop} (h : ∀ k, p k = true ↔ kept k) (m : KeyMap κ α) :
    m.Restricts (m.filterKeys p) kept := by
  intro k v
  rw [find?_filterKeys, ← h k]
  cases p k <;> simp

end KeyMap

namespace Store

variable {s : Store} {metricKey : String} {metric : Metric} {models : List InstalledModel}

/-- All but what belongs to a metric. -/
def sparing (s : Store) (metricKey : String) : Store where
  stops := s.stops.filterKeys fun key => key ≠ metricKey
  metrics := s.metrics.filterKeys fun key => key ≠ metricKey
  collectors := s.collectors.filterKeys fun key => key ≠ metricKey
  models := s.models.filterKeys fun key => !belongsTo metricKey key
  predictors := s.predictors.filterKeys fun key => !belongsTo metricKey key
  trainings := s.trainings.filterKeys fun key => !belongsTo metricKey key

/-- Models and trainings are found by the predictors, so none of them is missed. -/
theorem Coherent.remove_eq_sparing (h : s.Coherent) (metricKey : String) :
    s.remove metricKey = s.sparing metricKey := by
  have hkept : ∀ {α : Type} (m : KeyMap String α),
      (∀ key, m.contains key = true → s.predictors.contains key = true) →
        (s.dependents metricKey).foldl KeyMap.erase m =
          m.filterKeys fun key => !belongsTo metricKey key := by
    intro α m registered
    rw [KeyMap.foldl_erase_eq]
    refine KeyMap.filterKeys_congr fun key there => ?_
    rw [Bool.eq_iff_iff]
    simp [mem_dependents_iff, registered key there]
  rw [remove_eq, sparing, hkept s.models fun key there => (h.models key).symm.trans there,
    hkept s.predictors fun _ there => there, hkept s.trainings h.trainings]
  rfl

/-- Nothing belongs to a metric that is not there. -/
theorem Coherent.sparing_of_absent (h : s.Coherent)
    (absent : s.metrics.contains metricKey = false) : s.sparing metricKey = s := by
  have hmetric : ∀ key, s.metrics.contains key = true → decide (key ≠ metricKey) = true := by
    intro key there
    refine decide_eq_true fun same => ?_
    cases absent.symm.trans (same ▸ there)
  have hpredictor : ∀ key, s.predictors.contains key = true →
      (!belongsTo metricKey key) = true := by
    intro key there
    obtain ⟨spec, hspec⟩ := KeyMap.find?_of_contains ((h.models key).trans there)
    obtain ⟨found, hsplit, hfound⟩ := h.keys key spec hspec
    rw [Bool.not_eq_true', Bool.eq_false_iff]
    intro belongs
    obtain ⟨tag, htag⟩ := belongsTo_eq_true_iff.1 belongs
    cases hsplit.symm.trans htag
    cases absent.symm.trans hfound
  rw [sparing, KeyMap.filterKeys_eq_self hmetric,
    KeyMap.filterKeys_eq_self fun key there => hmetric key ((h.stops key).symm.trans there),
    KeyMap.filterKeys_eq_self fun key there => hmetric key ((h.collectors key).symm.trans there),
    KeyMap.filterKeys_eq_self hpredictor,
    KeyMap.filterKeys_eq_self fun key there => hpredictor key ((h.models key).symm.trans there),
    KeyMap.filterKeys_eq_self fun key there => hpredictor key (h.trainings key there)]

/-- All that is put in with a metric belongs to it. -/
theorem sparing_install (own : ∀ m ∈ models, m.key = metric.predictorKey m.spec.tag) (s : Store)
    (collector loop : Nat) :
    (s.install metric collector loop models).sparing metric.key = s.sparing metric.key := by
  have hmodels : ∀ m ∈ models, (!belongsTo metric.key m.key) = false := by
    intro m hm
    rw [own m hm, Bool.not_eq_false', belongsTo_eq_true_iff]
    exact ⟨_, splitPredictorKey?_predictorKey metric _ (keyMark_notMem_tag m.spec)⟩
  rw [install_eq, foldl_putModel_eq, putMetric, sparing, sparing]
  dsimp only
  rw [KeyMap.filterKeys_foldl_insert InstalledModel.key _ hmodels,
    KeyMap.filterKeys_foldl_insert InstalledModel.key _ hmodels,
    KeyMap.filterKeys_insert (by simp), KeyMap.filterKeys_insert (by simp),
    KeyMap.filterKeys_insert (by simp)]

/-- A metric that was put in just now goes with all that came with it. -/
theorem Coherent.remove_install (h : s.Coherent)
    (own : ∀ m ∈ models, m.key = metric.predictorKey m.spec.tag) (collector loop : Nat) :
    (s.install metric collector loop models).remove metric.key = s.remove metric.key := by
  rw [(h.install own collector loop).remove_eq_sparing, sparing_install own, h.remove_eq_sparing]

end Store

end PredictiveScaling
