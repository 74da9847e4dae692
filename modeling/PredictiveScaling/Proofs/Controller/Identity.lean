import PredictiveScaling.Proofs.Controller.Records
import PredictiveScaling.Proofs.Metric.Key

/-!
# Metrics under keys of their own

All that is installed for a metric is found under its key and under those of its predictors. Two
metrics are therefore installed side by side just as long as their keys differ
(`Controller.installed_both_iff`). Else the second takes the place of the first, although the two
may differ in name, unit and query.
-/
namespace PredictiveScaling

namespace Store

variable {s s' : Store} {metric other : Metric} {key : String}

/-! ## What is found under the keys of a metric -/

/-- The same is found under all keys of a metric. -/
structure AgreesOn (s s' : Store) (metric : Metric) : Prop where
  stops : s'.stops.find? metric.key = s.stops.find? metric.key
  metrics : s'.metrics.find? metric.key = s.metrics.find? metric.key
  collectors : s'.collectors.find? metric.key = s.collectors.find? metric.key
  models : ∀ spec : ModelSpec, s'.models.find? (metric.predictorKey spec.tag) =
    s.models.find? (metric.predictorKey spec.tag)
  predictors : ∀ spec : ModelSpec, s'.predictors.find? (metric.predictorKey spec.tag) =
    s.predictors.find? (metric.predictorKey spec.tag)

theorem belongsTo_predictorKey_iff (spec : ModelSpec) :
    belongsTo key (metric.predictorKey spec.tag) = true ↔ metric.key = key := by
  rw [belongsTo, splitPredictorKey?_predictorKey metric _ (keyMark_notMem_tag spec)]
  simp

/-- Keys of predictors differ if those of their metrics do. -/
theorem predictorKey_inj {spec spec' : ModelSpec} :
    metric.predictorKey spec.tag = other.predictorKey spec'.tag ↔
      metric.key = other.key ∧ spec.tag = spec'.tag := by
  constructor
  · intro same
    have parts := splitPredictorKey?_predictorKey metric _ (keyMark_notMem_tag spec)
    rw [same, splitPredictorKey?_predictorKey other _ (keyMark_notMem_tag spec')] at parts
    rw [Option.some.injEq, Prod.mk.injEq] at parts
    exact ⟨parts.1.symm, parts.2.symm⟩
  · rintro ⟨key, tag⟩
    rw [Metric.predictorKey, Metric.predictorKey, key, tag]

theorem agreesOn_remove (ne : metric.key ≠ key) (s : Store) : s.AgreesOn (s.remove key) metric := by
  have kept : ∀ spec : ModelSpec, metric.predictorKey spec.tag ∉ s.dependents key := by
    intro spec dependent
    exact ne ((belongsTo_predictorKey_iff spec).1 (mem_dependents_iff.1 dependent).2)
  rw [remove_eq]
  constructor
  · exact KeyMap.find?_erase_of_ne _ ne.symm
  · exact KeyMap.find?_erase_of_ne _ ne.symm
  · exact KeyMap.find?_erase_of_ne _ ne.symm
  · intro spec
    rw [KeyMap.find?_foldl_erase, if_neg (kept spec)]
  · intro spec
    rw [KeyMap.find?_foldl_erase, if_neg (kept spec)]

/-- Under a key is the last of the models that are put in there, or what was there before. -/
theorem find?_foldl_putModel (models : List InstalledModel) (s : Store) (key : String) :
    (∃ m ∈ models, m.key = key ∧ (models.foldl putModel s).models.find? key = some m.spec ∧
      (models.foldl putModel s).predictors.find? key = some m.predictor) ∨
    ((∀ m ∈ models, m.key ≠ key) ∧
      (models.foldl putModel s).models.find? key = s.models.find? key ∧
      (models.foldl putModel s).predictors.find? key = s.predictors.find? key) := by
  induction models generalizing s with
  | nil => exact .inr ⟨nofun, rfl, rfl⟩
  | cons m models ih =>
    rcases ih (s.putModel m) with ⟨last, hlast, found⟩ | ⟨none, hmodels, hpredictors⟩
    · exact .inl ⟨last, List.mem_cons_of_mem _ hlast, found⟩
    · by_cases hkey : m.key = key
      · subst hkey
        refine .inl ⟨m, List.mem_cons_self, rfl, hmodels.trans ?_, hpredictors.trans ?_⟩
        · exact KeyMap.find?_insert_self _ _ _
        · exact KeyMap.find?_insert_self _ _ _
      · refine .inr ⟨List.forall_mem_cons.2 ⟨hkey, none⟩, hmodels.trans ?_, hpredictors.trans ?_⟩
        · exact KeyMap.find?_insert_of_ne _ hkey _
        · exact KeyMap.find?_insert_of_ne _ hkey _

/-- Putting in a metric leaves alone what is under the keys of others. -/
theorem agreesOn_install (ne : metric.key ≠ other.key) (s : Store) (collector loop : Nat)
    {models : List InstalledModel}
    (own : ∀ m ∈ models, m.key = other.predictorKey m.spec.tag) :
    s.AgreesOn (s.install other collector loop models) metric := by
  have kept : ∀ spec : ModelSpec, ¬ ∃ m ∈ models, m.key = metric.predictorKey spec.tag := by
    rintro spec ⟨m, hm, hkey⟩
    rw [own m hm] at hkey
    exact ne (predictorKey_inj.1 hkey).1.symm
  have found : ∀ spec : ModelSpec, _ := fun spec => find?_foldl_putModel models
    (s.putMetric other collector loop) (metric.predictorKey spec.tag)
  rw [install_eq]
  have stores := foldl_putModel_eq models (s.putMetric other collector loop)
  constructor
  · rw [stores]
    exact KeyMap.find?_insert_of_ne _ ne.symm _
  · rw [stores]
    exact KeyMap.find?_insert_of_ne _ ne.symm _
  · rw [stores]
    exact KeyMap.find?_insert_of_ne _ ne.symm _
  · intro spec
    rcases found spec with ⟨m, hm, hkey, -⟩ | ⟨-, hmodels, -⟩
    · exact (kept spec ⟨m, hm, hkey⟩).elim
    · exact hmodels
  · intro spec
    rcases found spec with ⟨m, hm, hkey, -⟩ | ⟨-, -, hpredictors⟩
    · exact (kept spec ⟨m, hm, hkey⟩).elim
    · exact hpredictors

end Store

/-! ## What is installed -/

/-- What is in store, and what the numbers there stand for. -/
structure Holdings where
  store : Store
  collectors : Arena Collector
  predictors : Arena Predictor
  /-- The collector that a loop fills. -/
  fills? : Nat → Option Nat
  /-- How many loops there are. -/
  loops : Nat

namespace Holdings

variable {x y : Holdings} {m : Metric} {specs : List ModelSpec} {n : Nat}

/-- A metric is there with all that was put in with it: a collector of its own and a loop that
fills it, and for each model a predictor on that collector. Of models with one tag the last one
counts, since they share their key. -/
structure Installed (x : Holdings) (m : Metric) (specs : List ModelSpec) (n : Nat) : Prop where
  metric : x.store.metrics.find? m.key = some m
  collector : x.store.collectors.find? m.key = some n
  samples : (x.collectors.get? n).map Collector.metric = some m
  loop : ∃ loop, x.store.stops.find? m.key = some loop ∧ x.fills? loop = some n
  models : ∀ spec ∈ specs, ∃ own ∈ specs, own.tag = spec.tag ∧
    x.store.models.find? (m.predictorKey spec.tag) = some own ∧
      ∃ id p, x.store.predictors.find? (m.predictorKey spec.tag) = some id ∧
        x.predictors.get? id = some p ∧
          Predictor.ofSpec (m.predictorKey spec.tag) own n = .ok p

/-- Numbers go on to stand for what they stood for. -/
structure Extends (x y : Holdings) : Prop where
  collectors : ∀ {i c}, x.collectors.get? i = some c → y.collectors.get? i = some c
  predictors : ∀ {i p}, x.predictors.get? i = some p → y.predictors.get? i = some p
  fills? : ∀ {i n}, x.fills? i = some n → y.fills? i = some n

/-- A metric stays installed if nothing is changed under its keys. -/
theorem Installed.of_agreesOn (h : x.Installed m specs n) (ext : x.Extends y)
    (agrees : x.store.AgreesOn y.store m) : y.Installed m specs n where
  metric := agrees.metrics.trans h.metric
  collector := agrees.collectors.trans h.collector
  samples := by
    obtain ⟨c, found, metric⟩ := Option.map_eq_some_iff.1 h.samples
    exact Option.map_eq_some_iff.2 ⟨c, ext.collectors found, metric⟩
  loop := by
    obtain ⟨loop, stops, fills⟩ := h.loop
    exact ⟨loop, agrees.stops.trans stops, ext.fills? fills⟩
  models := by
    intro spec hspec
    obtain ⟨own, hown, htag, hmodel, id, p, hid, hp, hmade⟩ := h.models spec hspec
    exact ⟨own, hown, htag, (agrees.models spec).trans hmodel, id, p,
      (agrees.predictors spec).trans hid, ext.predictors hp, hmade⟩

/-- Put in a metric with its collector and its loop, and with the predictors that were made. -/
def install (x : Holdings) (m : Metric) (config : CollectionConfig)
    (made : List (ModelSpec × Predictor)) : Holdings where
  store := x.store.install m x.collectors.size x.loops
    (Controller.installedModels x.predictors.size made)
  collectors := x.collectors.push (.new m config.maxSamples)
  predictors := x.predictors.append (made.map Prod.snd)
  fills? i := if i = x.loops then some x.collectors.size else x.fills? i
  loops := x.loops + 1

end Holdings

namespace Controller

variable {c c' : Controller} {m m' : Metric} {specs specs' : List ModelSpec}
  {config config' : CollectionConfig} {keys keys' : List String} {n : Nat}

def holdings (c : Controller) : Holdings where
  store := c.store
  collectors := c.collectors
  predictors := c.predictors
  fills? i := (c.collectionLoops.get? i).map CollectionLoop.collector
  loops := c.collectionLoops.size

theorem holdings_signalCollection (c : Controller) (id : Nat) :
    (c.signalCollection id).holdings = c.holdings := by
  rw [signalCollection]
  split
  · rfl
  · next l found =>
    have same : (c.setCollectionLoop id { l with signalled := true }).holdings = c.holdings := by
      simp only [holdings, setCollectionLoop, Arena.size_modify, Arena.get?_modify]
      congr 1
      funext i
      split
      · next hi =>
        subst hi
        rw [found]
        rfl
      · rfl
    dsimp only
    split
    · exact same
    · exact same

theorem holdings_signalIfAny (c : Controller) (loop : Option Nat) :
    (c.signalIfAny loop).holdings = c.holdings := by
  cases loop with
  | none => rfl
  | some id => exact c.holdings_signalCollection id

theorem holdings_remove (c : Controller) (metricKey : String) :
    (c.remove metricKey).holdings =
      { c.holdings with store := (c.remove metricKey).store } := by
  rw [store_remove, remove, holdings_signalIfAny]
  rfl

/-- What is there before a metric is put in differs from what was there in store only. -/
theorem holdings_cleared (c : Controller) (metricKey : String) :
    (c.cleared metricKey).holdings =
      { c.holdings with store := (c.cleared metricKey).store } := by
  rw [cleared]
  split
  · exact c.holdings_remove metricKey
  · rfl

theorem holdings_install (h : c.install m specs config = (.ok keys, c')) :
    ∃ made, makePredictors m c.collectors.size specs = .ok made ∧
      c'.holdings = (c.cleared m.key).holdings.install m config made := by
  have hsize : (c.cleared m.key).collectors.size = c.collectors.size :=
    congrArg (fun x => x.collectors.size) (c.holdings_cleared m.key)
  rw [install] at h
  rw [← cleared] at h
  generalize c.cleared m.key = c₁ at hsize h ⊢
  rw [hsize] at h
  cases hmade : makePredictors m c.collectors.size specs with
  | error fault =>
    simp only [hmade] at h
    cases h
  | ok made =>
    simp only [hmade] at h
    cases h
    refine ⟨made, rfl, ?_⟩
    rw [holdings_signalIfAny]
    simp only [holdings, Holdings.install, spawnCollection, soon, call, Arena.size_push, hsize]
    congr 1
    funext i
    rw [Arena.get?_push]
    split
    · rfl
    · rfl

/-! ## Making predictors -/

/-- There is a predictor for each model, which is the one for its key. -/
theorem ofSpec_of_mem_made {collector : Nat} {made : List (ModelSpec × Predictor)}
    (h : makePredictors m collector specs = .ok made) : made.map Prod.fst = specs ∧
      ∀ x ∈ made, Predictor.ofSpec (m.predictorKey x.1.tag) x.1 collector = .ok x.2 := by
  induction specs generalizing made with
  | nil =>
    cases h
    exact ⟨rfl, nofun⟩
  | cons spec specs ih =>
    rw [makePredictors] at h
    cases hspec : Predictor.ofSpec (m.predictorKey spec.tag) spec collector with
    | error fault =>
      rw [hspec] at h
      cases h
    | ok p =>
      rw [hspec] at h
      cases hrest : makePredictors m collector specs with
      | error fault =>
        rw [hrest] at h
        cases h
      | ok rest =>
        rw [hrest] at h
        cases h
        obtain ⟨hfst, hall⟩ := ih hrest
        exact ⟨congrArg (spec :: ·) hfst, List.forall_mem_cons.2 ⟨hspec, hall⟩⟩

theorem map_key_installedModels (n : Nat) (made : List (ModelSpec × Predictor)) :
    (installedModels n made).map InstalledModel.key = made.map fun x => x.2.key := by
  induction made generalizing n with
  | nil => rfl
  | cons x made ih => rw [installedModels, List.map_cons, ih, List.map_cons]

end Controller

namespace Holdings

variable {x : Holdings} {m m' : Metric} {specs specs' : List ModelSpec}
  {config : CollectionConfig} {made : List (ModelSpec × Predictor)} {n : Nat}

theorem extends_install (x : Holdings) (m : Metric) (config : CollectionConfig)
    (made : List (ModelSpec × Predictor)) (fresh : ∀ {i n}, x.fills? i = some n → i < x.loops) :
    x.Extends (x.install m config made) where
  collectors found := by
    rw [install, Arena.get?_push_of_lt _ _ (Arena.lt_size_of_get? found), found]
  predictors found := by
    rw [install, Arena.get?_append_of_lt _ _ (Arena.lt_size_of_get? found), found]
  fills? found := by
    exact (if_neg (Nat.ne_of_lt (fresh found))).trans found

/-- What is put in for a metric is there. -/
theorem installed_install
    (hmade : Controller.makePredictors m x.collectors.size specs = .ok made) :
    (x.install m config made).Installed m specs x.collectors.size := by
  obtain ⟨hspecs, hall⟩ := Controller.ofSpec_of_mem_made hmade
  have stores := Store.foldl_putModel_eq (Controller.installedModels x.predictors.size made)
    (x.store.putMetric m x.collectors.size x.loops)
  constructor
  · rw [install, Store.install_eq, stores]
    exact KeyMap.find?_insert_self _ _ _
  · rw [install, Store.install_eq, stores]
    exact KeyMap.find?_insert_self _ _ _
  · rw [install, Arena.get?_push_self]
    rfl
  · refine ⟨x.loops, ?_, if_pos rfl⟩
    rw [install, Store.install_eq, stores]
    exact KeyMap.find?_insert_self _ _ _
  · intro spec hspec
    rw [← hspecs] at hspec
    obtain ⟨entry, hentry, rfl⟩ := List.mem_map.1 hspec
    rcases Store.find?_foldl_putModel (Controller.installedModels x.predictors.size made)
        (x.store.putMetric m x.collectors.size x.loops) (m.predictorKey entry.1.tag) with
      ⟨last, hlast, hkey, hmodel, hpredictor⟩ | ⟨none, -⟩
    · -- Under the key is the last model with the tag of this one.
      obtain ⟨i, p, hi, hp, hid⟩ := Controller.exists_of_mem_installedModels hlast
      have hmem := List.mem_of_getElem? hi
      have hmade' : Predictor.ofSpec (m.predictorKey last.spec.tag) last.spec _ = .ok p :=
        hall _ hmem
      have hown : last.key = m.predictorKey last.spec.tag :=
        hp.trans (Controller.of_mem_made hmade _ hmem).1
      have htag : last.spec.tag = entry.1.tag := (Store.predictorKey_inj.1 (hown.symm.trans hkey)).2
      refine ⟨last.spec, hspecs ▸ List.mem_map_of_mem hmem, htag, hmodel, last.predictor, p,
        hpredictor, ?_, ?_⟩
      · rw [install, hid, Arena.get?_append_add, List.getElem?_map, hi]
        rfl
      · rw [← htag]
        exact hmade'
    · have hkeys := Controller.map_key_installedModels x.predictors.size made
      have hmem : entry.2.key ∈ (Controller.installedModels x.predictors.size made).map
          InstalledModel.key := by
        rw [hkeys]
        exact List.mem_map_of_mem hentry
      obtain ⟨model, hmodel, hkey⟩ := List.mem_map.1 hmem
      exact (none model hmodel (hkey.trans (Controller.of_mem_made hmade _ hentry).1)).elim

end Holdings

namespace Controller

variable {c c₁ c₂ : Controller} {m m' : Metric} {specs specs' : List ModelSpec}
  {config config' : CollectionConfig} {keys keys' : List String} {n : Nat}

theorem agreesOn_cleared (ne : m.key ≠ m'.key) (c : Controller) :
    c.store.AgreesOn (c.cleared m'.key).store m := by
  rw [cleared]
  split
  · rw [store_remove]
    exact Store.agreesOn_remove ne c.store
  · exact ⟨rfl, rfl, rfl, fun _ => rfl, fun _ => rfl⟩

/-- A metric that is installed has a collector that was not there before. -/
theorem installed_install (first : c.install m specs config = (.ok keys, c₁)) :
    c₁.holdings.Installed m specs c.collectors.size ∧
      c₁.collectors.size = c.collectors.size + 1 := by
  obtain ⟨made, hmade, hholdings⟩ := holdings_install first
  have hsize : (c.cleared m.key).holdings.collectors.size = c.collectors.size := by
    rw [holdings_cleared]
    rfl
  have hcollectors := congrArg (fun x => x.collectors.size) hholdings
  rw [← hsize] at hmade ⊢
  refine ⟨hholdings ▸ Holdings.installed_install hmade, hcollectors.trans ?_⟩
  exact Arena.size_push _ _

/-- The models of a metric are put in under the keys of the metric. -/
theorem of_mem_installedModels {collector i : Nat} {made : List (ModelSpec × Predictor)}
    (hmade : makePredictors m collector specs = .ok made) {x : InstalledModel}
    (hx : x ∈ installedModels i made) :
    x.spec ∈ specs ∧ x.key = m.predictorKey x.spec.tag := by
  obtain ⟨j, p, hj, hkey, -⟩ := exists_of_mem_installedModels hx
  have hmem := List.mem_of_getElem? hj
  constructor
  · rw [← (ofSpec_of_mem_made hmade).1]
    exact List.mem_map_of_mem hmem
  · exact hkey.trans (of_mem_made hmade _ hmem).1

/-- A metric stays installed when another one is, under another key. -/
theorem installed_of_install (h : c.holdings.Installed m specs n) (ne : m.key ≠ m'.key)
    (second : c.install m' specs' config' = (.ok keys', c₁)) :
    c₁.holdings.Installed m specs n := by
  obtain ⟨made, hmade, hholdings⟩ := holdings_install second
  have cleared : (c.cleared m'.key).holdings.Installed m specs n := by
    rw [holdings_cleared]
    exact h.of_agreesOn ⟨id, id, id⟩ (agreesOn_cleared ne c)
  have fresh : ∀ {i n}, (c.cleared m'.key).holdings.fills? i = some n →
      i < (c.cleared m'.key).holdings.loops := by
    intro i n found
    obtain ⟨l, hl, -⟩ := Option.map_eq_some_iff.1 found
    exact Arena.lt_size_of_get? hl
  rw [hholdings]
  refine cleared.of_agreesOn (Holdings.extends_install _ _ _ _ fresh) ?_
  exact Store.agreesOn_install ne _ _ _ fun _ hx => (of_mem_installedModels hmade hx).2

/-- Where a metric is replaced, the models that do not come back are gone. -/
theorem find?_predictors_replaced (there : c.store.metrics.contains m'.key = true)
    (same : m.key = m'.key) (second : c.install m' specs' config' = (.ok keys', c₁))
    {spec : ModelSpec} (gone : spec.tag ∉ specs'.map ModelSpec.tag) :
    c₁.store.predictors.find? (m.predictorKey spec.tag) = none := by
  obtain ⟨made, hmade, hholdings⟩ := holdings_install second
  have hstore : c₁.store = (c.cleared m'.key).store.install m' _ _ _ :=
    congrArg Holdings.store hholdings
  have hremoved : (c.cleared m'.key).store = c.store.remove m'.key := by
    rw [cleared, if_pos there, store_remove]
  have hnone : (c.cleared m'.key).store.predictors.find? (m.predictorKey spec.tag) = none := by
    rw [hremoved, Store.find?_predictors_remove,
      if_pos ((Store.belongsTo_predictorKey_iff spec).2 same)]
  rw [hstore, Store.find?_predictors_install_of_ne, hnone]
  intro x hx hkey
  obtain ⟨hspec, hown⟩ := of_mem_installedModels hmade hx
  rw [hown] at hkey
  exact gone ((Store.predictorKey_inj.1 hkey).2 ▸ List.mem_map_of_mem hspec)

/-- A metric is installed if its models can be made. -/
theorem exists_install_eq (c : Controller) (m : Metric) (config : CollectionConfig)
    (valid : specs.findSome? ModelSpec.fault? = none) :
    ∃ keys, c.install m specs config = (.ok keys, (c.install m specs config).2) := by
  cases hresult : (c.install m specs config).1 with
  | error fault =>
    rw [(install_of_error hresult).1] at valid
    cases valid
  | ok keys => exact ⟨keys, Prod.ext hresult rfl⟩

/-- Two metrics that are installed one after the other are both there, each with a collector, a
loop and predictors of its own, if and only if name, unit and query differ in the texts between all
marks. Where these are the same the two have one key, and the second takes the place of the first,
whose predictors are gone but for those that the second has too. Name, unit and query themselves
decide only if names and units have no marks. -/
theorem installed_both_iff (first : c.install m specs config = (.ok keys, c₁))
    (second : c₁.install m' specs' config' = (.ok keys', c₂)) :
    (m.key = m'.key ↔ m.parts = m'.parts) ∧
    ((∃ n n', n ≠ n' ∧ c₂.holdings.Installed m specs n ∧ c₂.holdings.Installed m' specs' n') ↔
      m.parts ≠ m'.parts) ∧
    (m.parts = m'.parts → c₂.store.metrics.find? m.key = some m' ∧
      ∀ spec ∈ specs, spec.tag ∉ specs'.map ModelSpec.tag →
        c₂.store.predictors.find? (m.predictorKey spec.tag) = none) ∧
    (m.Plain → m'.Plain →
      (m.parts = m'.parts ↔ m.name = m'.name ∧ m.unit = m'.unit ∧ m.query = m'.query)) := by
  obtain ⟨installed, hsize⟩ := installed_install first
  obtain ⟨installed', -⟩ := installed_install second
  refine ⟨Metric.key_eq_iff, ⟨?_, fun ne => ?_⟩, fun same => ?_, Metric.parts_eq_iff⟩
  · rintro ⟨n, n', hne, both, both'⟩ same
    have hn := both.collector
    rw [Metric.key_eq_iff.2 same, both'.collector] at hn
    exact hne (Option.some.inj hn).symm
  · have hne : m.key ≠ m'.key := fun same => ne (Metric.key_eq_iff.1 same)
    refine ⟨c.collectors.size, c₁.collectors.size, by omega, ?_, installed'⟩
    exact installed_of_install installed hne second
  · have hkey := Metric.key_eq_iff.2 same
    have there : c₁.store.metrics.contains m'.key = true := by
      rw [← hkey]
      exact KeyMap.contains_eq_of_find? installed.metric
    refine ⟨hkey ▸ installed'.metric, fun spec _ gone => ?_⟩
    exact find?_predictors_replaced there hkey second gone

/-- A mark is the unit of one metric, and the query of another one begins with it. -/
theorem installed_both_iff_marks :
    let cost (unit query : String) : Metric := ⟨"cost", unit, query, 1.0, 100, .none⟩
    let empty := new "controller" ⟨"default", "web", "deployment"⟩ default .default
    let c := (empty.install (cost "$" "q") [smoothing 4] .default).2
    let alike := (c.install (cost "" "$q") [] .default).2
    let apart := (c.install (cost "" "q") [] .default).2
    (cost "$" "q").key = (cost "" "$q").key ∧
      (¬ ∃ n n', n ≠ n' ∧ alike.holdings.Installed (cost "$" "q") [smoothing 4] n ∧
        alike.holdings.Installed (cost "" "$q") [] n') ∧
      alike.store.predictors.find? "cost$$$q$holt_winters" = none ∧
      ∃ n n', n ≠ n' ∧ apart.holdings.Installed (cost "$" "q") [smoothing 4] n ∧
        apart.holdings.Installed (cost "" "q") [] n' := by
  intro cost empty c alike apart
  have valid : ([smoothing 4].findSome? ModelSpec.fault?).isNone = true := by decide +kernel
  have none : ([] : List ModelSpec).findSome? ModelSpec.fault? = none := rfl
  obtain ⟨_, first⟩ : ∃ keys, empty.install (cost "$" "q") [smoothing 4] .default =
      (.ok keys, c) := exists_install_eq empty _ _ (Option.isNone_iff_eq_none.1 valid)
  obtain ⟨_, second⟩ : ∃ keys, c.install (cost "" "$q") [] .default = (.ok keys, alike) :=
    exists_install_eq c _ _ none
  obtain ⟨_, third⟩ : ∃ keys, c.install (cost "" "q") [] .default = (.ok keys, apart) :=
    exists_install_eq c _ _ none
  clear_value alike apart c
  have same : (cost "$" "q").parts = (cost "" "$q").parts := by decide +kernel
  have differ : (cost "$" "q").parts ≠ (cost "" "q").parts := by decide +kernel
  obtain ⟨key, both, replaced, -⟩ := installed_both_iff first second
  refine ⟨key.2 same, fun there => both.1 there same, ?_, ?_⟩
  · have gone := (replaced same).2 (smoothing 4) List.mem_cons_self (by simp)
    have hkey : (cost "$" "q").predictorKey (smoothing 4).tag = "cost$$$q$holt_winters" := by
      decide +kernel
    rwa [hkey] at gone
  · exact (installed_both_iff first third).2.1.2 differ

end Controller

end PredictiveScaling
