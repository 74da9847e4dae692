import Mathlib.Data.List.Nodup
import PredictiveScaling.Proofs.Controller.Identity

/-!
# Models of one metric

The key of a predictor is made of the key of its metric and of the tag of its model. Models of one
metric with one tag therefore share a key, and are put in one over the other. All of them are
reported as installed, and the last one stays (`Controller.last_holds_install`). So each model has
a predictor of its own just as long as no two have the same tag
(`Controller.one_predictor_each_iff`).
-/
namespace PredictiveScaling

namespace Store

/-- Of the models that are put in under one key the last one stays. -/
theorem find?_foldl_putModel_last {models before after : List InstalledModel} {m : InstalledModel}
    (split : models = before ++ m :: after) (last : ∀ x ∈ after, x.key ≠ m.key) (s : Store) :
    (models.foldl putModel s).models.find? m.key = some m.spec ∧
      (models.foldl putModel s).predictors.find? m.key = some m.predictor := by
  rw [split, List.foldl_append, List.foldl_cons]
  rcases find?_foldl_putModel after ((before.foldl putModel s).putModel m) m.key with
    ⟨x, hx, hkey, -⟩ | ⟨-, hmodels, hpredictors⟩
  · exact (last x hx hkey).elim
  · rw [hmodels, hpredictors]
    exact ⟨KeyMap.find?_insert_self _ _ _, KeyMap.find?_insert_self _ _ _⟩

end Store

namespace Holdings

/-- A model is found under its key, with the predictor that is made for it on a collector. -/
structure Holds (x : Holdings) (m : Metric) (n : Nat) (spec : ModelSpec) : Prop where
  model : x.store.models.find? (m.predictorKey spec.tag) = some spec
  predictor : ∃ id p, x.store.predictors.find? (m.predictorKey spec.tag) = some id ∧
    x.predictors.get? id = some p ∧ Predictor.ofSpec (m.predictorKey spec.tag) spec n = .ok p

end Holdings

namespace Controller

variable {c c' : Controller} {m : Metric} {specs before after : List ModelSpec} {spec : ModelSpec}
  {config : CollectionConfig} {keys : List String}

theorem installedModels_append (n : Nat) (made more : List (ModelSpec × Predictor)) :
    installedModels n (made ++ more) =
      installedModels n made ++ installedModels (n + made.length) more := by
  induction made generalizing n with
  | nil => rfl
  | cons x made ih =>
    rw [List.cons_append, installedModels, ih, installedModels, List.cons_append, List.length_cons,
      Nat.add_assoc, Nat.add_comm 1]

/-- All models are reported, each under its key. -/
theorem keys_of_install (h : c.install m specs config = (.ok keys, c')) :
    keys = specs.map fun spec => m.predictorKey spec.tag := by
  rw [install, ← cleared] at h
  cases hmade : makePredictors m (c.cleared m.key).collectors.size specs with
  | error fault =>
    simp only [hmade] at h
    cases h
  | ok made =>
    simp only [hmade] at h
    cases h
    rw [map_key_installedModels, ← (ofSpec_of_mem_made hmade).1, List.map_map]
    exact List.map_congr_left fun x hx => (of_mem_made hmade x hx).1

/-- The last model of a tag is held. -/
theorem last_holds_install (h : c.install m specs config = (.ok keys, c'))
    (split : specs = before ++ spec :: after) (last : spec.tag ∉ after.map ModelSpec.tag) :
    c'.holdings.Holds m c.collectors.size spec := by
  obtain ⟨made, hmade, hholdings⟩ := holdings_install h
  obtain ⟨hspecs, hall⟩ := ofSpec_of_mem_made hmade
  rw [split] at hspecs
  obtain ⟨made₁, rest, rfl, -, hrest⟩ := List.map_eq_append_iff.1 hspecs
  obtain ⟨⟨own, p⟩, made₂, rfl, rfl, hafter⟩ := List.map_eq_cons_iff.1 hrest
  have hmem : (own, p) ∈ made₁ ++ (own, p) :: made₂ :=
    List.mem_append_right _ List.mem_cons_self
  have hkey : p.key = m.predictorKey own.tag := (of_mem_made hmade _ hmem).1
  have hlast : ∀ k, ∀ x ∈ installedModels k made₂, x.key ≠ p.key := by
    intro k x hx same
    obtain ⟨j, q, hj, hq, -⟩ := exists_of_mem_installedModels hx
    have hafter' : (x.spec, q) ∈ made₂ := List.mem_of_getElem? hj
    have hown : q.key = m.predictorKey x.spec.tag :=
      (of_mem_made hmade _ (List.mem_append_right _ (List.mem_cons_of_mem _ hafter'))).1
    rw [hq, hown, hkey] at same
    refine last ?_
    rw [← hafter, List.map_map, ← (Store.predictorKey_inj.1 same).2]
    exact List.mem_map_of_mem hafter'
  generalize (c.cleared m.key).holdings = x at hholdings
  have found := Store.find?_foldl_putModel_last
    (installedModels_append x.predictors.size made₁ ((own, p) :: made₂)) (hlast _)
    (x.store.putMetric m x.collectors.size x.loops)
  rw [hkey] at found
  rw [hholdings]
  constructor
  · rw [Holdings.install, Store.install_eq]
    exact found.1
  · refine ⟨_, p, found.2, ?_, hall _ hmem⟩
    rw [Holdings.install, List.map_append, Arena.get?_append_add]
    simp

/-- All models are held if those with one tag are all the same. -/
theorem holds_all_iff (h : c.install m specs config = (.ok keys, c')) :
    (∀ spec ∈ specs, c'.holdings.Holds m c.collectors.size spec) ↔
      ∀ spec ∈ specs, ∀ other ∈ specs, spec.tag = other.tag → spec = other := by
  constructor
  · intro all spec hspec other hother same
    have found := (all spec hspec).model
    rw [same, (all other hother).model] at found
    exact (Option.some.inj found).symm
  · intro alike spec hspec
    obtain ⟨own, hown, htag, hmodel, hpredictor⟩ := (installed_install h).1.models spec hspec
    obtain rfl := alike own hown spec hspec htag
    exact ⟨hmodel, hpredictor⟩

/-- Keys of predictors are as different as the tags of their models. -/
theorem nodup_predictorKeys_iff (m : Metric) (specs : List ModelSpec) :
    (specs.map fun spec => m.predictorKey spec.tag).Nodup ↔ (specs.map ModelSpec.tag).Nodup := by
  simp only [List.nodup_iff_pairwise_ne, List.pairwise_map, ne_eq, Store.predictorKey_inj, true_and]

/-- An installation reports one key for each model, and of the models with one tag it holds the
last one. So the keys are all different, and each model is held under its own with a predictor that
is made for it, if and only if no two of the models have one tag. -/
theorem one_predictor_each_iff (h : c.install m specs config = (.ok keys, c')) :
    keys = (specs.map fun spec => m.predictorKey spec.tag) ∧
    (∀ before spec after, specs = before ++ spec :: after → spec.tag ∉ after.map ModelSpec.tag →
      c'.holdings.Holds m c.collectors.size spec) ∧
    ((∀ spec ∈ specs, c'.holdings.Holds m c.collectors.size spec) ↔
      ∀ spec ∈ specs, ∀ other ∈ specs, spec.tag = other.tag → spec = other) ∧
    (keys.Nodup ∧ (∀ spec ∈ specs, c'.holdings.Holds m c.collectors.size spec) ↔
      (specs.map ModelSpec.tag).Nodup) := by
  refine ⟨keys_of_install h, fun _ _ _ => last_holds_install h, holds_all_iff h, ?_⟩
  rw [keys_of_install h, nodup_predictorKeys_iff, and_iff_left_iff_imp, holds_all_iff h]
  exact fun nodup spec hspec other hother => List.inj_on_of_nodup_map nodup hspec hother

/-- Of two models for smoothing that look back differently only the second one is held, and its
key is reported twice. -/
theorem one_predictor_each_iff_smoothing :
    let cpu : Metric := ⟨"cpu", "", "q", 1.0, 100, .none⟩
    let empty := new "controller" ⟨"default", "web", "deployment"⟩ default .default
    let c := (empty.install cpu [smoothing 4, smoothing 8] .default).2
    empty.install cpu [smoothing 4, smoothing 8] .default =
        (.ok ["cpu$$q$holt_winters", "cpu$$q$holt_winters"], c) ∧
      c.holdings.Holds cpu 0 (smoothing 8) ∧ ¬ c.holdings.Holds cpu 0 (smoothing 4) := by
  intro cpu empty c
  have valid : ([smoothing 4, smoothing 8].findSome? ModelSpec.fault?).isNone = true := by
    decide +kernel
  obtain ⟨keys, installed⟩ : ∃ keys, empty.install cpu [smoothing 4, smoothing 8] .default =
      (.ok keys, c) := exists_install_eq empty _ _ (Option.isNone_iff_eq_none.1 valid)
  obtain ⟨hkeys, hlast, hall, -⟩ := one_predictor_each_iff installed
  have hkey : cpu.predictorKey (smoothing 4).tag = "cpu$$q$holt_winters" := by decide +kernel
  have held : c.holdings.Holds cpu 0 (smoothing 8) := hlast [smoothing 4] _ [] rfl (by simp)
  refine ⟨?_, held, fun other => ?_⟩
  · rw [installed, hkeys, List.map_cons, List.map_cons, List.map_nil]
    exact congrArg (fun key => (Except.ok [key, key], c)) hkey
  · have both : ∀ spec ∈ [smoothing 4, smoothing 8], c.holdings.Holds cpu 0 spec :=
      List.forall_mem_cons.2 ⟨other, List.forall_mem_singleton.2 held⟩
    cases hall.1 both (smoothing 4) (by simp) (smoothing 8) (by simp) rfl

end Controller

end PredictiveScaling
