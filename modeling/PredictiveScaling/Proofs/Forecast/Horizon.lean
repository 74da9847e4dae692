import PredictiveScaling.Proofs.Evaluation.Round
import PredictiveScaling.Proofs.Evaluation.Target
import PredictiveScaling.Proofs.Remote.Flag

/-!
# How far forecasts reach

A forecast is meant to have one value for each step up to the horizon of its model. One
that is computed here has, as long as the position of the horizon is a word
(`SeasonalParams.length_of_predict?`, `SeasonalParams.steps_eq_lookForward_iff`). One of a
served model has the values of the reply, however many these are
(`RemotePredictor.values_of_takeExchange`), and one without any leaves the whole workload
without a goal (`Goal.ofResults?_eq_none_of_empty`).
-/
namespace PredictiveScaling

/-! ## Forecasts that are computed -/

/-- Going through a list without a gap gives one result for each element. -/
theorem length_of_mapM {α β : Type} {f : α → Option β} {l : List α} {ys : List β}
    (h : l.mapM f = some ys) : ys.length = l.length := by
  induction l generalizing ys with
  | nil =>
    cases h
    rfl
  | cons x l ih =>
    rw [List.mapM_cons] at h
    obtain ⟨y, -, h⟩ := Option.bind_eq_some_iff.1 h
    obtain ⟨ys', hys, h⟩ := Option.bind_eq_some_iff.1 h
    cases h
    rw [List.length_cons, List.length_cons, ih hys]

/-- Smoothing gives one value for each step. -/
theorem Smoothing.length_of_forecast? {α : Type} [Scalar α] {p : Smoothing α}
    {series values : List α} (h : p.forecast? series = some values) :
    values.length = p.lookForward := by
  rw [forecast?] at h
  obtain ⟨start, -, h⟩ := Option.bind_eq_some_iff.1 h
  obtain ⟨s, -, h⟩ := Option.bind_eq_some_iff.1 h
  rw [length_of_mapM h, List.length_range]

namespace SeasonalParams

variable {p : SeasonalParams} {b : Buffer} {f : Forecast}

theorem length_of_predict? (h : p.predict? b = some (.ok f)) : f.values.length = p.steps := by
  rw [predict?] at h
  split at h
  · cases h
  · obtain ⟨values, hvalues, h⟩ := Option.map_eq_some_iff.1 h
    cases h
    exact Smoothing.length_of_forecast? hvalues

/-- The steps reach to the horizon, unless its position wraps. -/
theorem steps_eq_lookForward_iff (p : SeasonalParams) (hpos : p.lookForward ≠ 0) :
    p.steps = p.lookForward.toNat ↔ p.lookBack.toNat + p.lookForward.toNat < UInt64.size := by
  have hback := p.lookBack.toNat_lt
  have hforward := p.lookForward.toNat_lt
  have hne : p.lookForward.toNat ≠ 0 := fun h => hpos (UInt64.toNat.inj h)
  rw [steps, UInt64.toNat_add, UInt64.size]
  by_cases hfits : p.lookBack.toNat + p.lookForward.toNat < 18446744073709551616
  · rw [Nat.mod_eq_of_lt hfits]
    omega
  · have hwraps : (p.lookBack.toNat + p.lookForward.toNat) % 18446744073709551616 =
        p.lookBack.toNat + p.lookForward.toNat - 18446744073709551616 := by
      omega
    omega

theorem lookForward_ne_zero (h : p.validate = .ok ()) : p.lookForward ≠ 0 := by
  intro hzero
  rw [validate] at h
  by_cases hseason : p.seasonLength = 0
  · rw [if_pos hseason] at h
    cases h
  · rw [if_neg hseason, if_pos hzero] at h
    cases h

end SeasonalParams

/-! ## Forecasts of all models -/

namespace RemotePredictor

variable {p : RemotePredictor} {request : PredictRequest}
  {answer : Except PredictError PredictReply} {f : Forecast}

/-- The values of a forecast are those of the reply. -/
theorem values_of_takeExchange (h : (p.takeExchange request answer).1 = .ok f) :
    ∃ reply, answer = .ok reply ∧ f.values = reply.prediction := by
  cases answer with
  | error cause => cases h
  | ok reply =>
    refine ⟨reply, rfl, ?_⟩
    simp only [takeExchange, takeReply] at h
    split at h
    · cases h
    · split at h
      · cases h
      · cases h
        rfl

end RemotePredictor

namespace Predictor

/-- What comes of asking a predictor for a forecast, given what its model answers if it is
served and asked. -/
def forecast? (p : Predictor) (b : Buffer) (answer : Except PredictError PredictReply) :
    Option (Except PredictError Forecast) :=
  match p.model with
  | .seasonal params => params.predict? b
  | .remote r =>
    match r.predictRequest b with
    | .error e => some (.error e)
    | .ok request => some (r.takeExchange request answer).1

/-- A predictor after events in the life of its model, if that is a served one. -/
def undergo (p : Predictor) (xs : List RemoteEvent) : Predictor :=
  p.modifyRemote fun r => xs.foldl RemotePredictor.undergo r

variable {p : Predictor} {key : String} {spec : ModelSpec} {collector : Nat} {b : Buffer}
  {answer : Except PredictError PredictReply} {f : Forecast}

/-- The forecasts of a round are those of its predictors. -/
theorem forecast?_eq_opening {c : Controller} {q : Prediction}
    (h : c.predictors.get? q.predictor = some p) (answer : Except PredictError PredictReply) :
    (p.forecast? (c.buffer p.collector) answer).bind Except.toOption =
      match c.opening q with
      | .brings forecast => forecast
      | .asks request => c.answered q request answer := by
  rw [Controller.opening, h, forecast?]
  obtain ⟨key, collector, params | r⟩ := p
  · rfl
  · dsimp only
    cases hrequest : r.predictRequest (c.buffer collector) with
    | error e => rfl
    | ok request =>
      simp only [Controller.answered, h]
      rfl

/-- A predictor whose forecasts are computed here has parameters that were accepted. -/
theorem model_of_seasonal {params : SeasonalParams} (hkind : spec.kind = .seasonal params)
    (made : ofSpec key spec collector = .ok p) :
    p.model = .seasonal params ∧ params.validate = .ok () := by
  rw [ofSpec, hkind] at made
  dsimp only at made
  cases hvalid : params.validate with
  | error fault =>
    rw [hvalid] at made
    cases made
  | ok u =>
    rw [hvalid] at made
    cases made
    exact ⟨rfl, rfl⟩

theorem model_of_remote {params : RemoteParams} (hkind : spec.kind = .remote params)
    (made : ofSpec key spec collector = .ok p) : ∃ r, p.model = .remote r := by
  rw [ofSpec, hkind] at made
  dsimp only at made
  cases hnew : RemotePredictor.new key params with
  | error fault =>
    rw [hnew] at made
    cases made
  | ok r =>
    rw [hnew] at made
    cases made
    exact ⟨r, rfl⟩

/-- A forecast of a served model has the values of the reply. -/
theorem values_of_forecast? {r : RemotePredictor} (hmodel : p.model = .remote r)
    (h : p.forecast? b answer = some (.ok f)) :
    ∃ reply, answer = .ok reply ∧ f.values = reply.prediction := by
  rw [forecast?, hmodel] at h
  dsimp only at h
  split at h
  · cases h
  · exact RemotePredictor.values_of_takeExchange (Option.some.inj h)

/-- A forecast has one value for each step up to the horizon exactly if it is computed and the
position of the horizon does not wrap, or if the reply of the model that serves it happens to
have as many. -/
theorem length_forecast_iff (made : ofSpec key spec collector = .ok p) (xs : List RemoteEvent)
    (h : (p.undergo xs).forecast? b answer = some (.ok f)) :
    f.values.length = spec.kind.lookForward.toNat ↔
      match spec.kind with
      | .seasonal params => params.lookBack.toNat + params.lookForward.toNat < UInt64.size
      | .remote params =>
        ∃ reply, answer = .ok reply ∧ reply.prediction.length = params.lookForward.toNat := by
  cases hkind : spec.kind with
  | seasonal params =>
    obtain ⟨hmodel, hvalid⟩ := model_of_seasonal hkind made
    have hmodel' : (p.undergo xs).model = .seasonal params := by
      rw [undergo, modifyRemote, hmodel]
      exact hmodel
    rw [forecast?, hmodel'] at h
    have hlength : f.values.length = params.steps := SeasonalParams.length_of_predict? h
    rw [hlength, ModelKind.lookForward]
    exact params.steps_eq_lookForward_iff (SeasonalParams.lookForward_ne_zero hvalid)
  | remote params =>
    obtain ⟨r, hmodel⟩ := model_of_remote hkind made
    have hmodel' : (p.undergo xs).model = .remote (xs.foldl RemotePredictor.undergo r) := by
      rw [undergo, modifyRemote, hmodel]
    obtain ⟨reply, rfl, hvalues⟩ := values_of_forecast? hmodel' h
    rw [hvalues, ModelKind.lookForward]
    constructor
    · intro hlength
      exact ⟨reply, rfl, hlength⟩
    · rintro ⟨reply, hreply, hlength⟩
      cases hreply
      exact hlength

/-- A served model that looks one step ahead. -/
def oneStep : ModelSpec := ⟨.remote RemotePredictor.oneSampleParams, true, .zero⟩

/-- Once it is trained, the model is asked for a forecast and the reply decides. -/
theorem forecast?_oneStep {p : Predictor} (made : ofSpec "cpu$$q$remote" oneStep 0 = .ok p)
    (answer : Except PredictError PredictReply) :
    (p.undergo (RemotePredictor.trainedTwice.take 3)).forecast?
        ((Buffer.empty 0).append [⟨1.0, 0⟩]) answer =
      some (((RemotePredictor.untrained "cpu$$q$remote" RemotePredictor.oneSampleParams).stage
        RemotePredictor.trainedTwice 3).takeExchange ⟨"cpu$$q$remote", [1.0], 1, 1⟩ answer).1 := by
  cases made
  have asked := RemotePredictor.predictRequest_trainedTwice
  rw [RemotePredictor.stage] at asked ⊢
  simp only [forecast?, undergo, modifyRemote, RemotePredictor.untrained] at asked ⊢
  rw [asked]

/-- A reply with one value makes a forecast of the length that was asked for. -/
theorem length_forecast_iff_oneStep :
    ∃ p f, ofSpec "cpu$$q$remote" oneStep 0 = .ok p ∧
      (p.undergo (RemotePredictor.trainedTwice.take 3)).forecast?
        ((Buffer.empty 0).append [⟨1.0, 0⟩]) (.ok ⟨true, none, [5.0], none, ""⟩) = some (.ok f) ∧
      f.values.length = 1 := by
  obtain ⟨p, made⟩ : ∃ p, ofSpec "cpu$$q$remote" oneStep 0 = .ok p := ⟨_, rfl⟩
  have made' : (p.undergo (RemotePredictor.trainedTwice.take 3)).forecast?
      ((Buffer.empty 0).append [⟨1.0, 0⟩]) (.ok ⟨true, none, [5.0], none, ""⟩) =
        some (.ok ⟨[5.0], 1.0, none⟩) := forecast?_oneStep made _
  exact ⟨p, _, made, made', (length_forecast_iff made _ made').2 ⟨_, rfl, rfl⟩⟩

/-- A reply that says that the model is trained and leaves the prediction unset. -/
def unsetPrediction : List UInt8 :=
  Line.write (.object [("trained", .bool true), ("prediction", .null)])

/-- It makes a forecast as well, but for no step. -/
theorem forecast_of_unsetPrediction :
    ∃ p reply f, ofSpec "cpu$$q$remote" oneStep 0 = .ok p ∧ oneStep.kind.lookForward = 1 ∧
      Line.read PredictReply.ofJson? unsetPrediction = .ok reply ∧
      (p.undergo (RemotePredictor.trainedTwice.take 3)).forecast?
        ((Buffer.empty 0).append [⟨1.0, 0⟩]) (.ok reply) = some (.ok f) ∧ f.values = [] := by
  obtain ⟨p, made⟩ : ∃ p, ofSpec "cpu$$q$remote" oneStep 0 = .ok p := ⟨_, rfl⟩
  have unset : ((Line.read PredictReply.ofJson? unsetPrediction).toOption.map fun reply =>
      (reply.trained, reply.error, reply.prediction.length)) = some (true, "", 0) := by
    decide +kernel
  cases hread : Line.read PredictReply.ofJson? unsetPrediction with
  | error cause =>
    rw [hread] at unset
    cases unset
  | ok reply =>
    obtain ⟨trained, key, prediction, loss, error⟩ := reply
    rw [hread] at unset
    simp only [Except.toOption, Option.map_some, Option.some.injEq, Prod.mk.injEq,
      List.length_eq_zero_iff] at unset
    obtain ⟨rfl, rfl, rfl⟩ := unset
    exact ⟨p, _, _, made, rfl, rfl, forecast?_oneStep made _, rfl⟩

end Predictor

/-! ## What becomes of short forecasts -/

namespace Goal

variable {config : ScalerConfig} {metrics : KeyMap String Metric}
  {results : List PredictorResult} {r : PredictorResult} {k : String} {metric : Metric}

/-- The common steps are no more than those that any result on an installed metric has. -/
theorem horizon_le_length (strategy : ModelStrategy) (hr : r ∈ results)
    (hkey : metricKey? r = some k) (hfound : metrics.find? k = some metric) :
    horizon (shares strategy metrics results) ≤ r.counts.length := by
  have hcounts : r.counts ∈ countsOn results k := List.mem_filterMap.2 ⟨r, hr, if_pos hkey⟩
  have hshare : ⟨metric, strategy.apply (countsOn results k)⟩ ∈
      shares strategy metrics results := by
    rw [shares_eq_filterMap]
    refine List.mem_filterMap.2 ⟨k, mem_resultKeys.2 ⟨r, hr, hkey⟩, ?_⟩
    rw [hfound, Option.map_some]
  have hne : (shares strategy metrics results).map Share.counts ≠ [] :=
    List.ne_nil_of_mem (List.mem_map_of_mem hshare)
  have hle := (le_shortestLength_iff hne).1 (Nat.le_refl _) _ (List.mem_map_of_mem hshare)
  rw [ModelStrategy.length_apply] at hle
  have hle' := (le_shortestLength_iff (List.ne_nil_of_mem hcounts)).1 (Nat.le_refl _) _ hcounts
  exact Nat.le_trans hle hle'

/-- A forecast without values, on an installed metric, leaves no goal for the whole workload. -/
theorem ofResults?_eq_none_of_empty {f : Forecast} {current : Int32} {target : Float}
    (hr : r ∈ results) (hkey : metricKey? r = some k) (hfound : metrics.find? k = some metric)
    (hcounts : r.counts = Scaler.modelCounts config f current target) (hempty : f.values = []) :
    ofResults? config metrics results = none := by
  have hlength : r.counts.length = 0 := by
    rw [hcounts, Scaler.modelCounts, BaseStrategy.length_counts, hempty, List.length_nil]
  have hle := horizon_le_length config.modelStrategy hr hkey hfound
  rw [hlength, Nat.le_zero] at hle
  exact ofShares?_eq_none config.peakStrategy hle

end Goal

end PredictiveScaling
