import PredictiveScaling.Proofs.Collector.Ledger
import PredictiveScaling.Proofs.Controller.Identity
import PredictiveScaling.Proofs.Forecast.Acceptance
import PredictiveScaling.Proofs.Forecast.Horizon

/-!
# Enough samples

A model asks its collector for a number of samples that never changes: what it looks back at if
its forecasts are computed here, and what it is trained on if it is served. Whether the collector
has them depends on how many were brought and on how many it keeps. Nothing compares what a model
asks for with the cap of its collector, so a model that was accepted may find too few samples for
ever (`Controller.suffices_iff`).
-/
namespace PredictiveScaling

/-! ## What a model asks for -/

/-- The samples behind a forecast that is computed here, or behind a training. -/
def ModelKind.need : ModelKind → Nat
  | .seasonal params => params.lookBack.toNat
  | .remote params => params.trainSize.toNat

namespace RemotePredictor

variable {p : RemotePredictor} {b : Buffer} {s : Sockets}

/-- A training is refused for want of samples just when they are too few. -/
theorem beginDispatch_insufficient_iff : (∃ held need,
    (p.beginDispatch b s).1 = .error (.insufficientData held need)) ↔
      b.size < p.params.trainSize.toNat := by
  by_cases short : b.size < p.params.trainSize.toNat
  · have hround : p.beginRound b = .error (.insufficientData b.size p.params.trainSize.toNat) :=
      if_pos short
    rw [beginDispatch, hround]
    exact iff_of_true ⟨_, _, rfl⟩ short
  · refine iff_of_false ?_ short
    rintro ⟨held, need, h⟩
    obtain ⟨xs, hxs, -⟩ := Buffer.exists_values? (Nat.not_lt.1 short)
    rw [beginDispatch, beginRound] at h
    simp only [short, if_false, hxs] at h
    cases hbegin : p.readiness.begin? with
    | none =>
      simp only [hbegin] at h
      cases h
    | some readiness =>
      simp only [hbegin] at h
      split at h
      · cases h
      · cases h

end RemotePredictor

namespace Predictor

variable {p : Predictor} {key : String} {spec : ModelSpec} {collector : Nat}

def need (p : Predictor) : Nat :=
  match p.model with
  | .seasonal params => params.lookBack.toNat
  | .remote r => r.params.trainSize.toNat

@[simp] theorem undergo_nil (p : Predictor) : p.undergo [] = p := by
  obtain ⟨key, collector, params | r⟩ := p
  · rfl
  · rfl

theorem collector_undergo (p : Predictor) (events : List RemoteEvent) :
    (p.undergo events).collector = p.collector := by
  obtain ⟨key, collector, params | r⟩ := p
  · rfl
  · rfl

/-- What a predictor asks for stays the same all its life. -/
theorem need_undergo (p : Predictor) (events : List RemoteEvent) :
    (p.undergo events).need = p.need := by
  obtain ⟨key, collector, params | r⟩ := p
  · rfl
  · exact congrArg (fun params => params.trainSize.toNat) (r.identity_foldl_undergo events).2

/-- A predictor asks for what its model does, and asks the collector it was made for. -/
theorem of_ofSpec (made : ofSpec key spec collector = .ok p) :
    p.collector = collector ∧ p.need = spec.kind.need := by
  revert made
  rw [ofSpec]
  cases spec.kind with
  | seasonal params =>
    dsimp only
    cases params.validate with
    | error fault =>
      intro refused
      cases refused
    | ok u =>
      rintro ⟨⟩
      exact ⟨rfl, rfl⟩
  | remote params =>
    dsimp only [RemotePredictor.new]
    cases params.validate with
    | error fault =>
      intro refused
      cases refused
    | ok u =>
      rintro ⟨⟩
      exact ⟨rfl, rfl⟩

end Predictor

/-! ## What a collector has -/

/-- How many samples some requests bring. -/
def Request.brought (rs : List Request) : Nat := (rs.flatMap brings).length

namespace Collector

theorem size_served (metric : Metric) (cap : Nat) (rs : List Request) :
    ((new metric cap).served rs).buffer.size =
      if cap = 0 then Request.brought rs else min cap (Request.brought rs) := by
  rw [(keeps_served metric cap rs).size_eq, Ledger.oldest, evicted, Ledger.history_of,
    Request.brought]
  split <;> omega

/-- Samples are too few as long as too few were brought, and for ever where too few are kept. -/
theorem size_served_lt_iff (metric : Metric) (cap need : Nat) (rs : List Request) :
    ((new metric cap).served rs).buffer.size < need ↔
      Request.brought rs < need ∨ 0 < cap ∧ cap < need := by
  rw [size_served]
  split <;> omega

end Collector

/-! ## Predictors without enough samples -/

namespace SeasonalParams

/-- A forecast is refused for want of samples just when they are too few. -/
theorem predict?_insufficient_iff {p : SeasonalParams} {b : Buffer} : (∃ held need,
    p.predict? b = some (.error (.insufficientData held need))) ↔
      b.size < p.lookBack.toNat := by
  refine ⟨?_, fun short => ⟨_, _, predict?_of_lt short⟩⟩
  rintro ⟨held, need, h⟩
  by_contra enough
  obtain ⟨xs, hxs, -⟩ := Buffer.exists_values? (Nat.not_lt.1 enough)
  simp only [predict?, hxs] at h
  obtain ⟨values, -, h⟩ := Option.map_eq_some_iff.1 h
  cases h

end SeasonalParams

namespace Controller

variable {c c' : Controller} {m : Metric} {specs : List ModelSpec} {spec : ModelSpec}
  {config : CollectionConfig} {keys : List String} {id : Nat} {p : Predictor}

/-- A predictor gives up for want of samples, when it is asked for a forecast that is computed
here or told to train a served model. -/
def LacksSamples (c : Controller) (id : Nat) : Prop :=
  ∃ held need, match c.predictors.get? id with
    | none => False
    | some ⟨_, collector, .seasonal params⟩ =>
      params.predict? (c.buffer collector) = some (.error (.insufficientData held need))
    | some ⟨_, _, .remote _⟩ => (c.beginTraining id).1 = .error (.insufficientData held need)

theorem lacksSamples_iff (h : c.predictors.get? id = some p) :
    c.LacksSamples id ↔ (c.buffer p.collector).size < p.need := by
  obtain ⟨key, collector, params | r⟩ := p
  · rw [LacksSamples, h]
    exact SeasonalParams.predict?_insufficient_iff
  · rw [Predictor.need, ← RemotePredictor.beginDispatch_insufficient_iff (s := c.sockets)]
    rw [LacksSamples, h, beginTraining, h]
    refine exists_congr fun held => exists_congr fun need => ?_
    dsimp only
    cases (r.beginDispatch (c.buffer collector) c.sockets).1 with
    | error cause => simp only [Except.map, Except.error.injEq]
    | ok d => simp only [Except.map, reduceCtorEq]

/-- A predictor finds too few samples as long as its collector was brought too few, and for ever
if that keeps too few. -/
theorem lacksSamples_served_iff {key : String} {n : Nat} {rs : List Request}
    {events : List RemoteEvent} (made : Predictor.ofSpec key spec n = .ok p)
    (hpredictor : c.predictors.get? id = some (p.undergo events))
    (hcollector : c.collectors.get? n = some ((Collector.new m config.maxSamples).served rs)) :
    c.LacksSamples id ↔ Request.brought rs < spec.kind.need ∨
      0 < config.maxSamples ∧ config.maxSamples < spec.kind.need := by
  obtain ⟨hn, hneed⟩ := Predictor.of_ofSpec made
  have hbuffer : c.buffer (p.undergo events).collector =
      ((Collector.new m config.maxSamples).served rs).buffer := by
    rw [Predictor.collector_undergo, hn, buffer, hcollector]
    rfl
  rw [lacksSamples_iff hpredictor, hbuffer, Predictor.need_undergo, hneed,
    Collector.size_served_lt_iff]

/-! ## What is installed -/

/-- A metric that is installed has a collector without samples. -/
theorem get?_collectors_install (h : c.install m specs config = (.ok keys, c')) :
    c'.collectors.get? c.collectors.size = some (.new m config.maxSamples) := by
  obtain ⟨made, -, hholdings⟩ := holdings_install h
  have hsize : (c.cleared m.key).holdings.collectors.size = c.collectors.size := by
    rw [holdings_cleared]
    rfl
  have hcollectors := congrArg (fun x => x.collectors.get? c.collectors.size) hholdings
  rw [← hsize] at hcollectors ⊢
  exact hcollectors.trans (Arena.get?_push_self _ _)

/-- Samples from elsewhere are one more request. -/
theorem get?_appendTo {n : Nat} {x : Collector} (h : c.collectors.get? n = some x)
    (xs : List Sample) : (c.appendTo n xs).collectors.get? n = some (x.served [.append xs]) := by
  rw [appendTo, Arena.get?_modify_self, h]
  rfl

/-- After an installation there is a predictor for each model, on the collector of the metric. Once
the collector was brought as many samples as the model asks for, the predictor never finds too few
of them if and only if the collector keeps as many. Otherwise it does for ever. -/
theorem suffices_iff (h : c.install m specs config = (.ok keys, c')) (hspec : spec ∈ specs) :
    ∃ own ∈ specs, own.tag = spec.tag ∧ ∃ id p,
      c'.store.models.find? (m.predictorKey spec.tag) = some own ∧
      c'.store.predictors.find? (m.predictorKey spec.tag) = some id ∧
      c'.predictors.get? id = some p ∧
      c'.store.collectors.find? m.key = some p.collector ∧
      c'.collectors.get? p.collector = some (.new m config.maxSamples) ∧
      (∀ rs events (d : Controller), d.predictors.get? id = some (p.undergo events) →
        d.collectors.get? p.collector = some ((Collector.new m config.maxSamples).served rs) →
          (d.LacksSamples id ↔ Request.brought rs < own.kind.need ∨
            0 < config.maxSamples ∧ config.maxSamples < own.kind.need)) ∧
      ((∀ rs events (d : Controller), d.predictors.get? id = some (p.undergo events) →
        d.collectors.get? p.collector = some ((Collector.new m config.maxSamples).served rs) →
          own.kind.need ≤ Request.brought rs → ¬ d.LacksSamples id) ↔
        config.maxSamples = 0 ∨ own.kind.need ≤ config.maxSamples) := by
  obtain ⟨own, hown, htag, hmodel, id, p, hid, hp, made⟩ :=
    (installed_install h).1.models spec hspec
  have hcollector := (Predictor.of_ofSpec made).1
  have hlacks : ∀ rs events (d : Controller), d.predictors.get? id = some (p.undergo events) →
      d.collectors.get? p.collector = some ((Collector.new m config.maxSamples).served rs) →
        (d.LacksSamples id ↔ Request.brought rs < own.kind.need ∨
          0 < config.maxSamples ∧ config.maxSamples < own.kind.need) := by
    intro rs events d hpredictor hsamples
    rw [hcollector] at hsamples
    exact lacksSamples_served_iff made hpredictor hsamples
  have hnew : c'.collectors.get? p.collector = some (.new m config.maxSamples) :=
    hcollector ▸ get?_collectors_install h
  refine ⟨own, hown, htag, id, p, hmodel, hid, hp, ?_, hnew, hlacks, ?_⟩
  · rw [hcollector]
    exact (installed_install h).1.collector
  · constructor
    · intro never
      have full := get?_appendTo hnew (List.replicate own.kind.need default)
      have enough : own.kind.need ≤
          Request.brought [.append (List.replicate own.kind.need default)] := by
        simp [Request.brought, Request.brings]
      have same : (c'.appendTo p.collector (List.replicate own.kind.need default)).predictors.get?
          id = some (p.undergo []) := by
        rw [Predictor.undergo_nil]
        exact hp
      have lacks := never _ [] _ same full enough
      rw [hlacks _ [] _ same full] at lacks
      omega
    · intro kept rs events d hpredictor hsamples enough lacks
      have := (hlacks rs events d hpredictor hsamples).1 lacks
      omega

/-- Eight samples are asked of a collector that keeps four, and never found. -/
theorem suffices_iff_keepingFour :
    let cpu : Metric := ⟨"cpu", "", "q", 1.0, 100, .none⟩
    let empty := new "controller" ⟨"default", "web", "deployment"⟩ default .default
    let config : CollectionConfig := { CollectionConfig.default with maxSamples := 4 }
    let c := (empty.install cpu [smoothing 8] config).2
    (∃ keys, empty.install cpu [smoothing 8] config = (.ok keys, c)) ∧
      ∃ id n, c.store.predictors.find? "cpu$$q$holt_winters" = some id ∧
        c.store.collectors.find? "cpu$$q" = some n ∧ ∀ xs, (c.appendTo n xs).LacksSamples id := by
  intro cpu empty config c
  have valid : ([smoothing 8].findSome? ModelSpec.fault?).isNone = true := by decide +kernel
  obtain ⟨keys, installed⟩ : ∃ keys, empty.install cpu [smoothing 8] config = (.ok keys, c) :=
    exists_install_eq empty _ _ (Option.isNone_iff_eq_none.1 valid)
  refine ⟨⟨keys, installed⟩, ?_⟩
  have hkey : cpu.predictorKey (smoothing 8).tag = "cpu$$q$holt_winters" := by decide +kernel
  have hmetric : cpu.key = "cpu$$q" := by decide +kernel
  obtain ⟨own, hown, -, id, p, -, hid, hp, hn, hnew, hlacks, -⟩ :=
    suffices_iff installed List.mem_cons_self
  obtain rfl := List.mem_singleton.1 hown
  rw [hkey] at hid
  rw [hmetric] at hn
  refine ⟨id, p.collector, hid, hn, fun xs => ?_⟩
  have same : (c.appendTo p.collector xs).predictors.get? id = some (p.undergo []) := by
    rw [Predictor.undergo_nil]
    exact hp
  exact (hlacks [.append xs] [] _ same (get?_appendTo hnew xs)).2 (.inr ⟨by decide, by decide⟩)

end Controller

end PredictiveScaling
