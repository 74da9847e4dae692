import PredictiveScaling.Proofs.Controller.Inventory
import PredictiveScaling.Proofs.Store.Coherence

/-!
# Installing

All predictors of a metric are made before anything is put in, so an installation that fails
has put in nothing. But what was installed under the same key has been removed before that.
A failed installation leaves everything as it was just where there was nothing to replace;
otherwise the old metric is lost with its predictors, its collector and its loop.
-/
namespace PredictiveScaling

/-- Why a model cannot be made, if it cannot. -/
def ModelSpec.fault? (s : ModelSpec) : Option ModelFault :=
  match s.kind with
  | .seasonal params => fault params.validate
  | .remote params => fault params.validate
where
  fault : Except ModelFault Unit → Option ModelFault
    | .error fault => some fault
    | .ok () => none

/-- A predictor is made if its model can be, and then it has the key and the collector that it
was made for. -/
theorem Predictor.ofSpec_cases (key : String) (spec : ModelSpec) (collector : Nat) :
    (∃ fault, spec.fault? = some fault ∧ ofSpec key spec collector = .error fault) ∨
      (spec.fault? = none ∧
        ∃ p, ofSpec key spec collector = .ok p ∧ p.key = key ∧ p.collector = collector) := by
  rw [ofSpec, ModelSpec.fault?]
  cases spec.kind with
  | seasonal params =>
    dsimp only
    cases params.validate with
    | error fault => exact .inl ⟨fault, rfl, rfl⟩
    | ok u => exact .inr ⟨rfl, _, rfl, rfl, rfl⟩
  | remote params =>
    dsimp only [RemotePredictor.new]
    cases params.validate with
    | error fault => exact .inl ⟨fault, rfl, rfl⟩
    | ok u => exact .inr ⟨rfl, _, rfl, rfl, rfl⟩

namespace Controller

variable {c : Controller} {metric : Metric} {specs : List ModelSpec} {config : CollectionConfig}

/-! ## Removing -/

theorem inventory_remove (c : Controller) (metricKey : String) : (c.remove metricKey).inventory =
    { c.inventory with store := c.store.remove metricKey } := by
  rw [remove]
  rw [inventory_signalIfAny]
  rfl

/-- What is there before a new metric is put in: one under the same key has gone. -/
def cleared (c : Controller) (metricKey : String) : Controller :=
  if c.store.metrics.contains metricKey then c.remove metricKey else c

section

variable {α : Type} {view : Controller → α} (h : OverlooksCollecting view)
  (store : ∀ c store, view { c with store } = view c)
include h store

theorem OverlooksCollecting.remove (c : Controller) (metricKey : String) :
    view (c.remove metricKey) = view c :=
  (h.signalIfAny _ _).trans (store c _)

/-- A view in which nothing of what is registered shows, and no new predictor, overlooks the
installation of a metric. -/
theorem OverlooksCollecting.install
    (append : ∀ {metric collector specs made}, makePredictors metric collector specs = .ok made →
      ∀ c : Controller, view { c with predictors := c.predictors.append (made.map Prod.snd) } =
        view c)
    (c : Controller) (metric : Metric) (specs : List ModelSpec) (config : CollectionConfig) :
    view (c.install metric specs config).2 = view c := by
  have hclear : view (c.cleared metric.key) = view c := by
    rw [cleared]
    split
    · exact h.remove store c metric.key
    · rfl
  rw [Controller.install, ← cleared, ← hclear]
  generalize c.cleared metric.key = c
  dsimp only
  split
  · rfl
  · next made hmade =>
    dsimp only
    rw [h.signalIfAny, store, h.spawnCollection]
    exact (h.collectors { c with predictors := _ } _).trans (append hmade c)

end

theorem contains_metrics_cleared (c : Controller) (metricKey : String) :
    (c.cleared metricKey).store.metrics.contains metricKey = false := by
  rw [cleared]
  split
  · have hstore := congrArg Inventory.store (c.inventory_remove metricKey)
    rw [store_inventory] at hstore
    rw [hstore]
    exact Store.contains_metrics_remove c.store metricKey
  · next absent => exact Bool.eq_false_iff.2 absent

/-! ## Making predictors -/

/-- The first model that cannot be made makes all fail. Otherwise there is a predictor for each
model, under a key of the metric and on the one collector. -/
theorem makePredictors_cases (metric : Metric) (collector : Nat) (specs : List ModelSpec) :
    (∃ fault, specs.findSome? ModelSpec.fault? = some fault ∧
        makePredictors metric collector specs = .error fault) ∨
      (specs.findSome? ModelSpec.fault? = none ∧
        ∃ made, makePredictors metric collector specs = .ok made ∧ made.map Prod.fst = specs ∧
          ∀ m ∈ made, m.2.key = metric.predictorKey m.1.tag ∧ m.2.collector = collector) := by
  induction specs with
  | nil =>
    refine .inr ⟨rfl, [], rfl, rfl, ?_⟩
    intro m hm
    cases hm
  | cons spec specs ih =>
    rw [makePredictors, List.findSome?_cons]
    rcases Predictor.ofSpec_cases (metric.predictorKey spec.tag) spec collector with
      ⟨fault, hfault, hspec⟩ | ⟨hfault, p, hspec, hkey, hcollector⟩
    · rw [hfault, hspec]
      exact .inl ⟨fault, rfl, rfl⟩
    · rw [hfault, hspec]
      dsimp only
      rcases ih with ⟨fault, hfirst, hmade⟩ | ⟨hfirst, made, hmade, hspecs, hall⟩
      · rw [hmade]
        exact .inl ⟨fault, hfirst, rfl⟩
      · rw [hmade]
        refine .inr ⟨hfirst, (spec, p) :: made, rfl, congrArg (spec :: ·) hspecs, ?_⟩
        exact List.forall_mem_cons.2 ⟨⟨hkey, hcollector⟩, hall⟩

theorem of_mem_made {collector : Nat} {made : List (ModelSpec × Predictor)}
    (h : makePredictors metric collector specs = .ok made) :
    ∀ m ∈ made, m.2.key = metric.predictorKey m.1.tag ∧ m.2.collector = collector := by
  rcases makePredictors_cases metric collector specs with ⟨_, _, herror⟩ | ⟨_, _, hok, _, hall⟩
  · cases herror.symm.trans h
  · cases hok.symm.trans h
    exact hall

/-! ## When installing fails -/

/-- An installation fails with the fault of the first model that cannot be made, and what was
under the key of the metric is gone by then. -/
theorem install_of_error {fault : ModelFault}
    (h : (c.install metric specs config).1 = .error fault) :
    specs.findSome? ModelSpec.fault? = some fault ∧
      (c.install metric specs config).2 = c.cleared metric.key := by
  rw [install] at h ⊢
  rw [← cleared] at h ⊢
  rcases makePredictors_cases metric (c.cleared metric.key).collectors.size specs with
    ⟨fault', hfirst, herror⟩ | ⟨_, made, hok, _⟩
  · simp only [herror] at h ⊢
    cases h
    exact ⟨hfirst, trivial⟩
  · simp only [hok] at h
    cases h

/-- An installation that fails leaves the controller as it was if, and only if, no metric was
installed under the same key. -/
theorem install_eq_self_iff {fault : ModelFault}
    (h : (c.install metric specs config).1 = .error fault) :
    (c.install metric specs config).2 = c ↔ c.store.metrics.contains metric.key = false := by
  rw [(install_of_error h).2]
  constructor
  · intro same
    have gone := c.contains_metrics_cleared metric.key
    rwa [same] at gone
  · intro absent
    rw [cleared, absent]
    rfl

/-- Smoothing over seasons of two samples. Only an even look-back can be installed. -/
def smoothing (lookBack : UInt64) : ModelSpec :=
  { kind := .seasonal ⟨2, lookBack, 2, 0.5, 0.5, 0.5⟩, needTrain := true, updateInterval := .zero }

/-- A model that cannot be made leaves nothing behind where there is no metric yet. Where the
metric is installed with another model already, it is lost. -/
theorem install_eq_self_iff_smoothing :
    let cpu : Metric := ⟨"cpu", "", "q", 1.0, 100, .none⟩
    let empty := new "controller" ⟨"default", "web", "deployment"⟩ default .default
    let c := (empty.install cpu [smoothing 4] .default).2
    (empty.install cpu [smoothing 5] .default).2 = empty ∧
      (c.install cpu [smoothing 5] .default).1 = .error (.unevenHistory 5 2) ∧
      (c.install cpu [smoothing 5] .default).2 ≠ c ∧
      c.store.predictors.keys = ["cpu$$q$holt_winters"] ∧
      (c.install cpu [smoothing 5] .default).2.store.predictors.keys = [] := by
  intro cpu empty c
  have fails : (empty.install cpu [smoothing 5] .default).1 = .error (.unevenHistory 5 2) :=
    rfl
  have fails' : (c.install cpu [smoothing 5] .default).1 = .error (.unevenHistory 5 2) :=
    rfl
  have there : c.store.metrics.contains cpu.key = true := by decide +kernel
  refine ⟨(install_eq_self_iff fails).2 (by decide +kernel), fails', ?_, by decide +kernel,
    by decide +kernel⟩
  intro same
  rw [(install_eq_self_iff fails').1 same] at there
  cases there

end Controller

end PredictiveScaling
