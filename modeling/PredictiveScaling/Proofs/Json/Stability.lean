import PredictiveScaling.Proofs.Json.Settling
import PredictiveScaling.Metric.Written
import PredictiveScaling.Workload.Written

/-!
# Written forms are stable

Records are taken in as objects and as arrays, with members that nobody reads, without some that
have defaults, with `null` in place of values and with errors of any shape. All of that is gone once
they are written: what is written of a record that was read is read as that record, for metrics and
their settings, models, workloads and the four messages alike (`Json.stable_written`).
-/
namespace PredictiveScaling

open Json

/-! ## Metrics and workloads -/

theorem ScaleDown.kept {s : ScaleDown} (threshold : Kept float? (.float s.threshold) s.threshold)
    (duration : Kept Duration.ofJson? s.duration.toDocument s.duration) :
    Kept ScaleDown.ofJson? s.toDocument s := by
  refine Kept.record (by simp [fieldNames]) (by simp) ?_ fun legible => ?_
  · simp only [List.forall_mem_cons]
    exact ⟨threshold.finite, duration.finite, List.forall_mem_nil _⟩
  · simp only [List.forall_mem_cons] at legible
    simp only [Record.required?, Record.find?, List.map_cons, List.map_nil, List.lookup_cons,
      String.reduceBEq, Option.bind_eq_bind, Option.bind_some, Option.pure_def,
      threshold.read_tree legible.1, duration.read_tree legible.2.1]

theorem ScaleDown.settles : Settles ScaleDown.ofJson? ScaleDown.toDocument := by
  intro j s h
  simp only [ofJson?, Option.bind_eq_bind, Option.bind_eq_some_iff, Option.pure_def,
    Option.some.injEq] at h
  obtain ⟨r, -, threshold, hthreshold, duration, hduration, rfl⟩ := h
  exact kept (settles_float.required hthreshold) (settles_duration.required hduration)

/-- Settings that are left out are read again once they are written. -/
theorem ScaleDown.kept_none : Kept ScaleDown.ofJson? ScaleDown.none.toDocument ScaleDown.none := by
  have hthreshold : float? (.number (intNumeral 0)) = some ScaleDown.none.threshold := by
    decide +kernel
  have hduration : Duration.ofJson? (.number (intNumeral 0)) = some ScaleDown.none.duration := by
    decide +kernel
  exact kept (settles_float hthreshold) (settles_duration hduration)

theorem Metric.settles : Settles Metric.ofJson? Metric.toDocument := by
  intro j m h
  simp only [ofJson?, Option.bind_eq_bind, Option.bind_eq_some_iff, Option.pure_def,
    Option.some.injEq] at h
  obtain ⟨r, -, name, -, unit, -, query, -, target, htarget, weight, -, scaleDown, hscaleDown,
    rfl⟩ := h
  have target := settles_float.required htarget
  have scaleDown := ScaleDown.settles.withDefault ScaleDown.kept_none hscaleDown
  refine Kept.record (by simp [fieldNames]) (by simp) ?_ fun legible => ?_
  · simp only [List.forall_mem_cons]
    exact ⟨List.forall_mem_nil _, List.forall_mem_nil _, List.forall_mem_nil _, target.finite,
      List.forall_mem_nil _, scaleDown.finite, List.forall_mem_nil _⟩
  · simp only [List.forall_mem_cons] at legible
    obtain ⟨-, -, -, ltarget, -, lscaleDown, -⟩ := legible
    simp only [Record.required?, Record.withDefault?, Record.find?, List.map_cons, List.map_nil,
      List.lookup_cons, String.reduceBEq, Option.bind_eq_bind, Option.bind_some, Option.pure_def,
      string?_tree, int32?_tree, target.read_tree ltarget, scaleDown.read_tree lscaleDown]

theorem Workload.settles : Settles Workload.ofJson? Workload.toDocument := by
  intro j w _
  refine Kept.record (by simp [fieldNames]) (by simp) ?_ fun _ => ?_
  · simp [Document.floats]
  · simp only [Record.required?, Record.find?, List.map_cons, List.map_nil, List.lookup_cons,
      String.reduceBEq, Option.bind_eq_bind, Option.bind_some, Option.pure_def, string?_tree]

/-! ## Models -/

theorem SeasonalParams.settles :
    Settles SeasonalParams.ofJson? fun p => .object p.members := by
  intro j p h
  simp only [ofJson?, Option.bind_eq_bind, Option.bind_eq_some_iff, Option.pure_def,
    Option.some.injEq] at h
  obtain ⟨r, -, seasonLength, -, lookBack, -, lookForward, -, alpha, halpha, beta, hbeta, gamma,
    hgamma, rfl⟩ := h
  have alpha := settles_float.required halpha
  have beta := settles_float.required hbeta
  have gamma := settles_float.required hgamma
  refine Kept.record (by simp [members, fieldNames]) (by simp [members]) ?_ fun legible => ?_
  · simp only [members, List.forall_mem_cons]
    exact ⟨List.forall_mem_nil _, List.forall_mem_nil _, List.forall_mem_nil _, alpha.finite,
      beta.finite, gamma.finite, List.forall_mem_nil _⟩
  · simp only [members, List.forall_mem_cons] at legible
    obtain ⟨-, -, -, lalpha, lbeta, lgamma, -⟩ := legible
    simp only [members, Record.required?, Record.find?, List.map_cons, List.map_nil,
      List.lookup_cons, String.reduceBEq, Option.bind_eq_bind, Option.bind_some, Option.pure_def,
      word64?_tree, alpha.read_tree lalpha, beta.read_tree lbeta, gamma.read_tree lgamma]

theorem RemoteParams.settles : Settles RemoteParams.ofJson? fun p => .object p.members := by
  intro j p _
  refine Kept.record (by simp [members, fieldNames]) (by simp [members]) ?_ fun _ => ?_
  · simp [members, Document.floats, wordDocument, Document.ofNat]
  · simp only [members, Record.required?, Record.find?, List.map_cons, List.map_nil,
      List.lookup_cons, String.reduceBEq, Option.bind_eq_bind, Option.bind_some, Option.pure_def,
      string?_tree, word64?_tree]

namespace ModelKind

/-- A model of either form has a type and parameters. -/
theorem exists_ofParams? {room : Nat} {j : Json} {k : ModelKind} (h : ofJson? room j = some k) :
    ∃ inner type params, room = inner + 1 ∧ ofParams? type params = some k := by
  cases room with
  | zero => cases j <;> cases h
  | succ inner =>
    cases j with
    | object members =>
      obtain ⟨named, -, h⟩ := Option.bind_eq_some_iff.1 h
      split at h
      dsimp only at h
      split at h
      · obtain ⟨type, -, h⟩ := Option.bind_eq_some_iff.1 h
        exact ⟨inner, type, _, rfl, (Option.ite_none_right_eq_some.1 h).2⟩
      · cases h
    | array elements =>
      cases elements with
      | nil => cases h
      | cons t params =>
        obtain ⟨type, -, h⟩ := Option.bind_eq_some_iff.1 h
        exact ⟨inner, type, _, rfl, (Option.ite_none_right_eq_some.1 h).2⟩
    | null => cases h
    | bool b => cases h
    | number n => cases h
    | string t => cases h

/-- What is written with a type is read as parameters of that type. -/
theorem ofJson?_tagged {room : Nat} {type : String} {ms : List (String × Document)}
    (untagged : ∀ m ∈ ms, m.1 ≠ typeField)
    (readable : ∀ m ∈ ms, (Document.ofJson? room m.2.tree).isSome) :
    ofJson? (room + 1) (Document.object ((typeField, .string type) :: ms)).tree =
      ofParams? type (Document.object ms).tree := by
  have hnamed : namedMembers? (Document.memberTrees ((typeField, .string type) :: ms)) =
      some ((typeField, .string (some type)) :: ms.map fun m => (m.1, m.2.tree)) := by
    rw [namedMembers?_eq_some_iff, Document.memberTrees_eq]
    simp [Document.tree]
  have hpartition : ((typeField, Json.string (some type)) ::
      ms.map fun m => (m.1, m.2.tree)).partition (fun m => m.1 == typeField) =
        ([(typeField, .string (some type))], ms.map fun m => (m.1, m.2.tree)) := by
    have hother : ∀ m ∈ ms.map fun m => (m.1, m.2.tree), (m.1 == typeField) = false :=
      List.forall_mem_map.2 fun m hm => beq_eq_false_iff_ne.2 (untagged m hm)
    rw [List.partition_eq_filter_filter, List.filter_cons_of_pos (by simp),
      List.filter_eq_nil_iff.2 fun m hm => by simp [hother m hm],
      List.filter_cons_of_neg (by simp),
      List.filter_eq_self.2 fun m hm => by simp [hother m hm]]
  have hreadable : (ms.map fun m => (m.1, m.2.tree)).all
      (fun m => (Document.ofJson? room m.2).isSome) = true := by
    rw [List.all_map, List.all_eq_true]
    exact readable
  rw [Document.tree, ofJson?, hnamed]
  simp only [Option.bind_eq_bind, Option.bind_some, hpartition, string?, hreadable, if_true,
    Document.tree, Document.memberTrees_eq, List.map_map]
  rfl

theorem kept_tagged {room : Nat} {type : String} {ms : List (String × Document)} {k : ModelKind}
    (untagged : ∀ m ∈ ms, m.1 ≠ typeField)
    (readable : (∀ x ∈ Document.memberFloats ms, ReadsBack x) →
      ∀ m ∈ ms, (Document.ofJson? room m.2.tree).isSome)
    (kept : Kept (ofParams? type) (.object ms) k) :
    Kept (ofJson? (room + 1)) (.object ((typeField, .string type) :: ms)) k := by
  refine ⟨kept.finite, fun legible => ?_⟩
  rw [ofJson?_tagged untagged (readable legible)]
  exact kept.read_tree legible

theorem isSome_ofJson?_word (room : Nat) (n : UInt64) :
    (Document.ofJson? room (wordDocument n).tree).isSome := by
  have hvalue := value?_intNumeral (n := n.toNat) (Nat.le_pred_of_lt n.toNat_lt)
  rw [wordDocument, Document.ofNat, Document.tree, Document.ofJson?, hvalue]
  rfl

theorem isSome_ofJson?_float (room : Nat) {x : Float} (h : ReadsBack x) :
    (Document.ofJson? room (Document.float x).tree).isSome := by
  obtain ⟨n, v, hn, hv, -⟩ := float?_eq_some_iff.1 (float?_tree h)
  rw [hn, Document.ofJson?, hv]
  rfl

theorem kept_seasonal (room : Nat) {p : SeasonalParams}
    (kept : Kept SeasonalParams.ofJson? (.object p.members) p) :
    Kept (ofJson? (room + 1)) (toDocument (.seasonal p)) (.seasonal p) := by
  refine kept_tagged (by simp [SeasonalParams.members, typeField]) (fun legible => ?_)
    ⟨kept.finite, fun legible => ?_⟩
  · have hlegible := forall_mem_memberFloats.1 legible
    simp only [SeasonalParams.members, List.forall_mem_cons, Document.floats] at hlegible ⊢
    obtain ⟨-, -, -, halpha, hbeta, hgamma, -⟩ := hlegible
    exact ⟨isSome_ofJson?_word .., isSome_ofJson?_word .., isSome_ofJson?_word ..,
      isSome_ofJson?_float _ halpha.1, isSome_ofJson?_float _ hbeta.1,
      isSome_ofJson?_float _ hgamma.1, List.forall_mem_nil _⟩
  · rw [ofParams?, if_pos rfl, kept.read_tree legible]
    rfl

theorem kept_remote (room : Nat) {p : RemoteParams}
    (kept : Kept RemoteParams.ofJson? (.object p.members) p) :
    Kept (ofJson? (room + 1)) (toDocument (.remote p)) (.remote p) := by
  refine kept_tagged (by simp [RemoteParams.members, typeField]) (fun _ => ?_)
    ⟨kept.finite, fun legible => ?_⟩
  · simp only [RemoteParams.members, List.forall_mem_cons]
    exact ⟨rfl, rfl, isSome_ofJson?_word .., isSome_ofJson?_word .., isSome_ofJson?_word ..,
      isSome_ofJson?_word .., isSome_ofJson?_word .., isSome_ofJson?_word .., List.forall_mem_nil _⟩
  · rw [ofParams?, if_neg (by decide), if_pos rfl, kept.read_tree legible]
    rfl

/-- Members that come before the type or after it, and elements of an array, all come to be written
behind the type. -/
theorem settles (room : Nat) : Settles (ofJson? room) toDocument := by
  intro j k h
  obtain ⟨inner, type, params, rfl, hparams⟩ := exists_ofParams? h
  rw [ofParams?] at hparams
  split at hparams
  · obtain ⟨p, hp, rfl⟩ := Option.map_eq_some_iff.1 hparams
    exact kept_seasonal inner (SeasonalParams.settles hp)
  · obtain ⟨-, hparams⟩ := Option.ite_none_right_eq_some.1 hparams
    obtain ⟨p, hp, rfl⟩ := Option.map_eq_some_iff.1 hparams
    exact kept_remote inner (RemoteParams.settles hp)

end ModelKind

theorem ModelSpec.settles (room : Nat) : Settles (ofJson? room) toDocument := by
  intro j s h
  simp only [ofJson?, Option.bind_eq_bind, Option.bind_eq_some_iff, Option.pure_def,
    Option.some.injEq] at h
  obtain ⟨r, -, kind, hkind, needTrain, -, updateInterval, hupdate, rfl⟩ := h
  have kind := (ModelKind.settles (room - 1)).required hkind
  have update := settles_duration.required hupdate
  refine Kept.record (by simp [fieldNames]) (by simp) ?_ fun legible => ?_
  · simp only [List.forall_mem_cons]
    exact ⟨kind.finite, List.forall_mem_nil _, update.finite, List.forall_mem_nil _⟩
  · simp only [List.forall_mem_cons] at legible
    obtain ⟨lkind, -, lupdate, -⟩ := legible
    simp only [Record.required?, Record.find?, List.map_cons, List.map_nil, List.lookup_cons,
      String.reduceBEq, Option.bind_eq_bind, Option.bind_some, Option.pure_def,
      kind.read_tree lkind, bool?_tree, update.read_tree lupdate]

/-! ## Messages -/

theorem PredictRequest.settles : Settles PredictRequest.ofJson? PredictRequest.toDocument := by
  intro j m h
  refine ⟨?_, fun legible => m.ofJson?_tree (m.floats_toDocument ▸ legible)⟩
  simp only [ofJson?, Option.bind_eq_bind, Option.bind_eq_some_iff, Option.pure_def,
    Option.some.injEq] at h
  obtain ⟨r, -, key, -, history, hhistory, lookBack, -, lookForward, -, rfl⟩ := h
  rw [floats_toDocument, ← elementFloats_map_float history]
  exact (settles_floats.required hhistory).finite

theorem TrainRequest.settles : Settles TrainRequest.ofJson? TrainRequest.toDocument := by
  intro j m h
  refine ⟨?_, fun legible => m.ofJson?_tree (m.floats_toDocument ▸ legible)⟩
  simp only [ofJson?, Option.bind_eq_bind, Option.bind_eq_some_iff, Option.pure_def,
    Option.some.injEq] at h
  obtain ⟨r, -, key, -, history, hhistory, address, -, lookBack, -, lookForward, -, batchSize, -,
    epochs, -, layers, -, rfl⟩ := h
  rw [floats_toDocument, ← elementFloats_map_float history]
  exact (settles_floats.required hhistory).finite

/-- An error of any shape is a text from then on. -/
theorem settles_errorText (room : Nat) : Settles (errorText? room) .string :=
  fun _ _ _ => .of_read_tree rfl rfl

theorem settles_flag : Settles (orDefault? false bool?) .bool :=
  settles_bool.orDefault rfl (.of_read_tree rfl rfl)

theorem settles_forecast :
    Settles (orDefault? [] (list? float?)) fun xs => .array (xs.map .float) :=
  settles_floats.orDefault rfl (.of_read_tree rfl rfl)

theorem settles_name : Settles (nullable? string?) (Document.ofOption .string) :=
  settles_string.nullable rfl

theorem settles_loss : Settles (nullable? float?) (Document.ofOption .float) :=
  settles_float.nullable rfl

theorem PredictReply.settles : Settles PredictReply.ofJson? PredictReply.toDocument := by
  intro j m h
  simp only [ofJson?, Option.bind_eq_bind, Option.bind_eq_some_iff, Option.pure_def,
    Option.some.injEq] at h
  obtain ⟨r, -, trained, htrained, key, hkey, prediction, hprediction, loss, hloss, error, herror,
    rfl⟩ := h
  have trained := settles_flag.withDefault (.of_read_tree rfl rfl) htrained
  have key := settles_name.withDefault kept_null hkey
  have prediction := settles_forecast.withDefault (.of_read_tree rfl rfl) hprediction
  have loss := settles_loss.withDefault kept_null hloss
  have error := (settles_errorText messageRoom).withDefault (.of_read_tree rfl rfl) herror
  refine Kept.record (by simp [fieldNames]) (by simp) ?_ fun legible => ?_
  · simp only [List.forall_mem_cons]
    exact ⟨trained.finite, key.finite, prediction.finite, loss.finite, error.finite,
      List.forall_mem_nil _⟩
  · simp only [List.forall_mem_cons] at legible
    obtain ⟨ltrained, lkey, lprediction, lloss, lerror, -⟩ := legible
    simp only [Record.withDefault?, Record.find?, List.map_cons, List.map_nil, List.lookup_cons,
      String.reduceBEq, Option.bind_eq_bind, Option.bind_some, Option.pure_def,
      trained.read_tree ltrained, key.read_tree lkey, prediction.read_tree lprediction,
      loss.read_tree lloss, error.read_tree lerror]

theorem TrainReport.settles : Settles TrainReport.ofJson? TrainReport.toDocument := by
  intro j m h
  simp only [ofJson?, Option.bind_eq_bind, Option.bind_eq_some_iff, Option.pure_def,
    Option.some.injEq] at h
  obtain ⟨r, -, trained, htrained, key, hkey, loss, hloss, error, herror, rfl⟩ := h
  have trained := settles_flag.withDefault (.of_read_tree rfl rfl) htrained
  have key := settles_name.withDefault kept_null hkey
  have loss := settles_loss.withDefault kept_null hloss
  have error := (settles_errorText messageRoom).withDefault (.of_read_tree rfl rfl) herror
  refine Kept.record (by simp [fieldNames]) (by simp) ?_ fun legible => ?_
  · simp only [List.forall_mem_cons]
    exact ⟨trained.finite, key.finite, loss.finite, error.finite, List.forall_mem_nil _⟩
  · simp only [List.forall_mem_cons] at legible
    obtain ⟨ltrained, lkey, lloss, lerror, -⟩ := legible
    simp only [Record.withDefault?, Record.find?, List.map_cons, List.map_nil, List.lookup_cons,
      String.reduceBEq, Option.bind_eq_bind, Option.bind_some, Option.pure_def,
      trained.read_tree ltrained, key.read_tree lkey, loss.read_tree lloss, error.read_tree lerror]

/-! ## All written forms -/

/-- What is written of anything that was read is read as it. -/
theorem Json.stable_written :
    Stable Metric.ofJson? Metric.toDocument ∧
    Stable ScaleDown.ofJson? ScaleDown.toDocument ∧
    Stable (ModelKind.ofJson? maxNesting) ModelKind.toDocument ∧
    Stable (ModelSpec.ofJson? maxNesting) ModelSpec.toDocument ∧
    Stable Workload.ofJson? Workload.toDocument ∧
    Stable PredictRequest.ofJson? PredictRequest.toDocument ∧
    Stable TrainRequest.ofJson? TrainRequest.toDocument ∧
    Stable PredictReply.ofJson? PredictReply.toDocument ∧
    Stable TrainReport.ofJson? TrainReport.toDocument :=
  ⟨Metric.settles.stable, ScaleDown.settles.stable, (ModelKind.settles maxNesting).stable,
    (ModelSpec.settles maxNesting).stable, Workload.settles.stable, PredictRequest.settles.stable,
    TrainRequest.settles.stable, PredictReply.settles.stable, TrainReport.settles.stable⟩

/-- A metric without settings and with a member that nobody reads, a model whose type comes last,
and a reply as an array, with `null` for what is unset and an object for its error. -/
theorem Json.stable_written_texts :
    let metric := "\x7b\"weight\": -1, \"unit\": \"%\", \"query\": \"q\", \"more\": [[]], " ++
      "\"target\": 5e-1, \"name\": \"cpu\"\x7d"
    let model := "\x7b\"season_length\": 4, \"look_back\": 8, \"look_forward\": 2, \"alpha\": 0.5, " ++
      "\"beta\": 0, \"gamma\": 1, \"type\": \"holt_winters\"\x7d"
    let reply := "[true, null, null, null, \x7b\"b\": [1, 2.5], \"a\": null\x7d]"
    Rewrites Metric.ofJson? Metric.toDocument metric.toUTF8.toList ∧
      Rewrites (ModelKind.ofJson? maxNesting) ModelKind.toDocument model.toUTF8.toList ∧
      Rewrites PredictReply.ofJson? PredictReply.toDocument reply.toUTF8.toList := by
  obtain ⟨hmetric, -, hmodel, -, -, -, -, hreply, -⟩ := stable_written
  exact ⟨hmetric.rewrites (by decide +kernel), hmodel.rewrites (by decide +kernel),
    hreply.rewrites (by decide +kernel)⟩

end PredictiveScaling
