import PredictiveScaling.Proofs.Collector.Ledger
import PredictiveScaling.Proofs.Decimal.Exact
import PredictiveScaling.Proofs.Json.Fields
import PredictiveScaling.Source.Prometheus

/-!
# What comes in from Prometheus

An answer that reports success has points in it, one for each series of a vector, any number for
each series of a matrix. Each of them whose text is a finite number and whose time is a point in
time yields one sample, in the order of the document, and nothing else does. Whatever else a query
ends with brings no samples. So all that a collector ever holds of such queries is finite
(`Prometheus.only_finite_samples`).
-/
namespace PredictiveScaling

theorem Decimal.isFinite_eq (x : Float) : isFinite x = x.isFinite := by
  change _ = x.toModel.unpack.isFinite
  rw [isFinite, valueOf_eq_ofUnpacked]
  cases x.toModel.unpack <;> rfl

namespace Prometheus

/-! ## Points in a document -/

/-- A point is written as a number and a text. -/
def WritesPoint (j : Json) (p : Point) : Prop :=
  ∃ seconds, j = .array [seconds, .string (some p.value)] ∧ Json.float? seconds = some p.seconds

/-- A record has this tree in its only field. -/
def WritesField (name : String) (j x : Json) : Prop :=
  ∃ field, Json.WritesRecord [name] field j ∧ field name = some x

/-- The points in a result of some type, in the order in which they stand. -/
inductive Lists : String → Json → List Point → Prop
  | vector {series : List Json} {ps : List Point}
      (h : List.Forall₂ (fun j p => ∃ x, WritesField "value" j x ∧ WritesPoint x p) series ps) :
      Lists "vector" (.array series) ps
  | scalar {j : Json} {p : Point} (h : WritesPoint j p) : Lists "scalar" j [p]
  | matrix {series : List Json} {pss : List (List Point)}
      (h : List.Forall₂ (fun j ps => ∃ xs, WritesField "values" j (.array xs) ∧
        List.Forall₂ WritesPoint xs ps) series pss) :
      Lists "matrix" (.array series) pss.flatten
  | string {j : Json} {p : Point} (h : WritesPoint j p) : Lists "string" j []

/-- A choice without further data is written as its name. -/
def WritesName (j : Json) (name : String) : Prop :=
  j = .string (some name) ∨ j = .object [(some name, .null)]

/-- The points in a type with its result. -/
def ListsData (j : Json) (ps : List Point) : Prop :=
  ∃ field type kind result, Json.WritesRecord ["resultType", "result"] field j ∧
    field "resultType" = some type ∧ WritesName type kind ∧
    field "result" = some result ∧ Lists kind result ps

/-- An answer reports success, and these are the points in it. Without data there are none. -/
def Succeeds (j : Json) (ps : List Point) : Prop :=
  ∃ field, Json.WritesRecord ["status", "data", "error"] field j ∧
    field "status" = some (.string (some "success")) ∧
    (Json.Unset (field "data") ∧ ps = [] ∨ ∃ data, field "data" = some data ∧ ListsData data ps)

variable {j : Json} {p : Point} {ps : List Point} {d : Data}

theorem Point.ofJson?_eq_some_iff : Point.ofJson? j = some p ↔ WritesPoint j p := by
  constructor
  · intro h
    match j, h with
    | .array [seconds, value], h =>
      obtain ⟨s, hs, hrest⟩ := Option.bind_eq_some_iff.1 h
      obtain ⟨v, hv, heq⟩ := Option.bind_eq_some_iff.1 hrest
      cases heq
      rw [Json.string?_eq_some_iff.1 hv]
      exact ⟨seconds, rfl, hs⟩
  · rintro ⟨seconds, rfl, hs⟩
    rw [Point.ofJson?, hs]
    rfl

/-- A record with one field is read by reading that field. -/
theorem exists_of_required? {α : Type} {name : String} {read : Json → Option α} {a : α}
    (h : ((Json.record? [name] j).bind fun r => r.required? name read) = some a) :
    ∃ x, WritesField name j x ∧ read x = some a := by
  obtain ⟨r, hr, hrest⟩ := Option.bind_eq_some_iff.1 h
  obtain ⟨x, hx, hread⟩ := Option.bind_eq_some_iff.1 hrest
  exact ⟨x, ⟨r.find?, (Json.writesRecord_iff (List.nodup_singleton name)).2 ⟨r, hr, fun _ _ => rfl⟩,
    hx⟩, hread⟩

theorem exists_of_seriesPoint? (h : seriesPoint? j = some p) :
    ∃ x, WritesField "value" j x ∧ WritesPoint x p := by
  obtain ⟨x, hx, hp⟩ := exists_of_required? h
  exact ⟨x, hx, Point.ofJson?_eq_some_iff.1 hp⟩

theorem exists_of_seriesPoints? (h : seriesPoints? j = some ps) :
    ∃ xs, WritesField "values" j (.array xs) ∧ List.Forall₂ WritesPoint xs ps := by
  obtain ⟨x, hx, hps⟩ := exists_of_required? h
  obtain ⟨xs, rfl, hxs⟩ := Json.list?_eq_some_iff.1 hps
  exact ⟨xs, hx, hxs.imp fun _ _ => Point.ofJson?_eq_some_iff.1⟩

/-- Of a result of each type all points are read. -/
theorem Data.lists_points {kind : String} {read : Json → Option Data}
    (known : readers.lookup kind = some read) (h : read j = some d) : Lists kind j d.points := by
  obtain ⟨before, after, hreaders, -⟩ := List.lookup_eq_some_iff.1 known
  have hmem : (kind, read) ∈ readers := by
    rw [hreaders]
    exact List.mem_append_right _ List.mem_cons_self
  simp only [readers, List.mem_cons, List.not_mem_nil, or_false, Prod.mk.injEq] at hmem
  rcases hmem with ⟨rfl, rfl⟩ | ⟨rfl, rfl⟩ | ⟨rfl, rfl⟩ | ⟨rfl, rfl⟩
  · obtain ⟨ps, hps, rfl⟩ := Option.map_eq_some_iff.1 h
    obtain ⟨series, rfl, hseries⟩ := Json.list?_eq_some_iff.1 hps
    exact .vector (hseries.imp fun _ _ => exists_of_seriesPoint?)
  · obtain ⟨p, hp, rfl⟩ := Option.map_eq_some_iff.1 h
    exact .scalar (Point.ofJson?_eq_some_iff.1 hp)
  · obtain ⟨pss, hpss, rfl⟩ := Option.map_eq_some_iff.1 h
    obtain ⟨series, rfl, hseries⟩ := Json.list?_eq_some_iff.1 hpss
    exact .matrix (hseries.imp fun _ _ => exists_of_seriesPoints?)
  · obtain ⟨p, hp, rfl⟩ := Option.map_eq_some_iff.1 h
    exact .string (Point.ofJson?_eq_some_iff.1 hp)

theorem exists_of_choice? {α : Type} {choices : List (String × α)} {a : α}
    (h : Json.choice? choices j = some a) :
    ∃ name, WritesName j name ∧ choices.lookup name = some a := by
  rw [Json.choice?.eq_def] at h
  split at h
  · obtain ⟨name, rfl, hname⟩ := Option.bind_eq_some_iff.1 h
    exact ⟨name, .inl rfl, hname⟩
  · exact ⟨_, .inr rfl, h⟩
  · cases h

/-- What is read of a type with its result is in it. -/
theorem listsData_of_read {type result : Json} {field : String → Option Json}
    (record : Json.WritesRecord ["resultType", "result"] field j)
    (htype : field "resultType" = some type) (hresult : field "result" = some result)
    (h : ((Json.choice? Data.readers type).bind fun read => read result) = some d) :
    ListsData j d.points := by
  obtain ⟨read, hread, hd⟩ := Option.bind_eq_some_iff.1 h
  obtain ⟨kind, hkind, known⟩ := exists_of_choice? hread
  exact ⟨field, type, kind, result, record, htype, hkind, hresult, Data.lists_points known hd⟩

/-- The members of a record, of which no other one is known. -/
theorem writesRecord_of_members {members : List (Option String × Json)}
    {named known : List (String × Json)} (hnamed : Json.namedMembers? members = some named)
    (hknown : named.filter (fun m => m.1 = "resultType" ∨ m.1 = "result") = known)
    (distinct : (known.map Prod.fst).Nodup) :
    Json.WritesRecord ["resultType", "result"] (known.lookup ·) (.object members) := by
  refine (Json.writesRecord_iff (by decide)).2 ⟨⟨false, known⟩, ?_, fun _ _ => rfl⟩
  have hsame : named.filter (fun m => m.1 ∈ ["resultType", "result"]) = known := by
    rw [← hknown]
    exact List.filter_congr fun m _ => by simp
  rw [Json.record?, hnamed, Option.bind_eq_bind, Option.bind_some, hsame]
  exact if_pos distinct

theorem Data.listsData_points (h : Data.ofJson? j = some d) : ListsData j d.points := by
  rw [Data.ofJson?.eq_def] at h
  split at h
  · next type result =>
    have record : Json.WritesRecord ["resultType", "result"]
        ((["resultType", "result"].zip [type, result]).lookup ·) (.array [type, result]) :=
      .array (Nat.le_refl 2) (Json.lookup_zip (by decide) _)
    exact listsData_of_read record rfl rfl h
  · next members =>
    obtain ⟨named, hnamed, hrest⟩ := Option.bind_eq_some_iff.1 h
    split at hrest
    · next type result hknown =>
      exact listsData_of_read (writesRecord_of_members hnamed hknown (by simp)) rfl rfl hrest
    · next result type hknown =>
      split at hrest
      · exact listsData_of_read (writesRecord_of_members hnamed hknown (by simp)) rfl rfl hrest
      · cases hrest
    · cases hrest
  · cases h

/-- The points in an answer. -/
def Answer.points (a : Answer) : List Point := (a.data.map Data.points).getD []

theorem Answer.succeeds_points {a : Answer} (h : Answer.ofJson? j = some a)
    (success : a.status = "success") : Succeeds j a.points := by
  obtain ⟨r, hr, h⟩ := Option.bind_eq_some_iff.1 h
  obtain ⟨status, hstatus, h⟩ := Option.bind_eq_some_iff.1 h
  obtain ⟨data, hdata, h⟩ := Option.bind_eq_some_iff.1 h
  obtain ⟨error, -, heq⟩ := Option.bind_eq_some_iff.1 h
  cases heq
  obtain ⟨x, hx, htext⟩ := Option.bind_eq_some_iff.1 hstatus
  cases success
  rw [Json.string?_eq_some_iff.1 htext] at hx
  refine ⟨r.find?, (Json.writesRecord_iff (by decide)).2 ⟨r, hr, fun _ _ => rfl⟩, hx, ?_⟩
  cases data with
  | none => exact .inl ⟨Json.Record.withDefault?_eq_some_none.1 hdata, rfl⟩
  | some d =>
    obtain ⟨x, hx, hd⟩ := (Json.Record.withDefault?_eq_some_some rfl).1 hdata
    exact .inr ⟨x, hx, Data.listsData_points hd⟩

/-! ## Samples of points -/

/-- The sample that a point stands for: its text is a finite number, and its time in milliseconds is
a point in time. -/
structure Point.Denotes (p : Point) (x : Sample) : Prop where
  text : Decimal.readFloat? p.value = some x.value
  finite : x.value.isFinite = true
  time : x.time = Decimal.wholeWord (p.seconds * 1000.0)
  inRange : Timestamp.earliest ≤ x.time ∧ x.time ≤ Timestamp.latest

/-- Samples come of points in their order, one of each that stands for a sample. -/
inductive Yields : List Point → List Sample → Prop
  | nil : Yields [] []
  | take {p : Point} {x : Sample} {ps : List Point} {xs : List Sample} (denotes : p.Denotes x)
      (rest : Yields ps xs) : Yields (p :: ps) (x :: xs)
  | pass {p : Point} {ps : List Point} {xs : List Sample} (none : ∀ x, ¬ p.Denotes x)
      (rest : Yields ps xs) : Yields (p :: ps) xs

theorem Point.sample?_eq_some_iff {x : Sample} : p.sample? = some x ↔ p.Denotes x := by
  rw [Point.sample?.eq_def]
  cases hread : Decimal.readFloat? p.value with
  | none =>
    refine ⟨nofun, fun h => ?_⟩
    cases hread.symm.trans h.text
  | some value =>
    rw [Option.ite_none_right_eq_some, Decimal.isFinite_eq, Timestamp.inRange, Bool.and_eq_true,
      decide_eq_true_iff, decide_eq_true_iff]
    constructor
    · rintro ⟨⟨finite, inRange⟩, heq⟩
      cases heq
      exact ⟨hread, finite, rfl, inRange⟩
    · rintro ⟨text, finite, time, inRange⟩
      obtain rfl : value = x.value := Option.some.inj (hread.symm.trans text)
      rw [← time]
      exact ⟨⟨finite, inRange⟩, rfl⟩

theorem yields_filterMap (ps : List Point) : Yields ps (ps.filterMap Point.sample?) := by
  induction ps with
  | nil => exact .nil
  | cons p ps ih =>
    cases h : p.sample? with
    | none =>
      rw [List.filterMap_cons_none h]
      refine .pass (fun x denotes => ?_) ih
      cases h.symm.trans (Point.sample?_eq_some_iff.2 denotes)
    | some x =>
      rw [List.filterMap_cons_some h]
      exact .take (Point.sample?_eq_some_iff.1 h) ih

theorem Yields.finite {xs : List Sample} (h : Yields ps xs) :
    ∀ x ∈ xs, x.value.isFinite = true := by
  induction h with
  | nil => exact List.forall_mem_nil _
  | take denotes _ ih => exact List.forall_mem_cons.2 ⟨denotes.finite, ih⟩
  | pass _ _ ih => exact ih

/-! ## Queries -/

variable {status : Nat} {body : List UInt8} {a : Answer}

theorem query_of_success (decoded : (Json.parse? body).bind Answer.ofJson? = some a)
    (success : a.status = "success") :
    query (some (status, body)) = .ok (a.points.filterMap Point.sample?) := by
  rw [query, samplesOfReply, decoded]
  dsimp only
  rw [if_neg (not_not_intro success), Answer.points]
  cases a.data <;> rfl

/-- Without an answer that reports success a query fails. -/
theorem exists_query_eq_error {reply : Option (Nat × List UInt8)}
    (bad : ∀ status body a, reply = some (status, body) →
      (Json.parse? body).bind Answer.ofJson? = some a → a.status ≠ "success") :
    ∃ e, query reply = .error e := by
  match reply, bad with
  | none, _ => exact ⟨_, rfl⟩
  | some (status, body), bad =>
    rw [query, samplesOfReply]
    split
    · exact ⟨_, rfl⟩
    · next a decoded =>
      rw [if_pos (bad status body a rfl decoded)]
      exact ⟨_, rfl⟩

theorem finite_of_query {reply : Option (Nat × List UInt8)} {xs : List Sample}
    (h : query reply = .ok xs) : ∀ x ∈ xs, x.value.isFinite = true := by
  by_cases bad : ∀ status body a, reply = some (status, body) →
      (Json.parse? body).bind Answer.ofJson? = some a → a.status ≠ "success"
  · obtain ⟨e, he⟩ := exists_query_eq_error bad
    cases he.symm.trans h
  · push Not at bad
    obtain ⟨status, body, a, rfl, decoded, success⟩ := bad
    cases (query_of_success decoded success).symm.trans h
    exact (yields_filterMap a.points).finite

/-! ## Collectors -/

/-- A request that brings no more than a query has found. -/
def Polls : Request → Prop
  | .append _ => False
  | .collect (some (.ok xs)) => ∃ reply, query reply = .ok xs
  | _ => True

theorem finite_of_polls {r : Request} (polls : Polls r) :
    ∀ x ∈ r.brings, x.value.isFinite = true := by
  match r, polls with
  | .collect (some (.ok xs)), ⟨reply, h⟩ => exact finite_of_query h
  | .collect (some (.error e)), _ => exact List.forall_mem_nil _
  | .collect none, _ => exact List.forall_mem_nil _
  | .send, _ => exact List.forall_mem_nil _
  | .window n, _ => exact List.forall_mem_nil _
  | .latest, _ => exact List.forall_mem_nil _
  | .size, _ => exact List.forall_mem_nil _

/-- An answer that reports success yields one sample for each point in it that stands for one, in
the order of the document, and no others. Every other end of a query is an error, and leaves a
collector as it is. Whatever a collector is asked as long as all its samples come of queries, and
whether these succeed, fail or take too long, it holds finite values only. -/
theorem only_finite_samples :
    (∀ status body j a, Json.parse? body = some j → Answer.ofJson? j = some a →
      a.status = "success" →
      ∃ ps xs, Succeeds j ps ∧ Yields ps xs ∧ query (some (status, body)) = .ok xs) ∧
    (∀ reply, (∀ status body a, reply = some (status, body) →
        (Json.parse? body).bind Answer.ofJson? = some a → a.status ≠ "success") →
      ∃ e, query reply = .error e ∧ ∀ c : Collector, c.take (query reply) = (.error e, c)) ∧
    ∀ (metric : Metric) (cap : Nat) (rs : List Request), (∀ r ∈ rs, Polls r) →
      ∀ x ∈ ((Collector.new metric cap).served rs).buffer.samples, x.value.isFinite = true := by
  refine ⟨fun status body j a parsed decoded success => ?_, fun reply bad => ?_,
    fun metric cap rs polls x hx => ?_⟩
  · have hdecoded : (Json.parse? body).bind Answer.ofJson? = some a := by rw [parsed]; exact decoded
    exact ⟨a.points, _, Answer.succeeds_points decoded success, yields_filterMap a.points,
      query_of_success hdecoded success⟩
  · obtain ⟨e, he⟩ := exists_query_eq_error bad
    refine ⟨e, he, fun c => ?_⟩
    rw [he]
    rfl
  · rw [(Collector.keeps_served metric cap rs).samples, Ledger.history_of] at hx
    obtain ⟨r, hr, hbrought⟩ := List.mem_flatMap.1 (List.mem_of_mem_drop hx)
    exact finite_of_polls (polls r hr) x hbrought

/-- Of the four points of a matrix one has a text that is no finite number and one a time beyond all
points in time. -/
theorem only_finite_samples_of_matrix :
    let text := "\x7b\"status\": \"success\", \"data\": \x7b\"result\": [" ++
      "\x7b\"values\": [[1.5, \"3\"], [2, \"NaN\"]]\x7d, " ++
      "\x7b\"values\": [[1e300, \"4\"], [-1, \"5e-1\"]]\x7d], \"resultType\": \"matrix\"\x7d\x7d"
    let answer := query (some (200, text.toUTF8.toList))
    let metric : Metric := ⟨"cpu", "", "q", 1.0, 100, .none⟩
    (∃ j ps xs, Json.parse? text.toUTF8.toList = some j ∧ Succeeds j ps ∧ Yields ps xs ∧
      answer = .ok xs ∧
      xs.map (fun x => (x.value.toBits, x.time)) =
        [(0x4008000000000000, 1500), (0x3fe0000000000000, -1000)]) ∧
    ∀ x ∈ ((Collector.new metric 3).served
        [.collect (some answer), .collect none, .collect (some answer)]).buffer.samples,
      x.value.isFinite = true := by
  intro text answer metric
  have hdecoded : ((Json.parse? text.toUTF8.toList).bind Answer.ofJson?).map Answer.status =
      some "success" := by decide +kernel
  have hshown : (answer.toOption.getD []).map (fun x => (x.value.toBits, x.time)) =
      [(0x4008000000000000, 1500), (0x3fe0000000000000, -1000)] := by decide +kernel
  obtain ⟨a, ha, success⟩ := Option.map_eq_some_iff.1 hdecoded
  obtain ⟨j, parsed, decoded⟩ := Option.bind_eq_some_iff.1 ha
  obtain ⟨ps, xs, succeeds, yields, hxs⟩ :=
    only_finite_samples.1 200 _ j a parsed decoded success
  have hanswer : answer = .ok xs := hxs
  refine ⟨⟨j, ps, xs, parsed, succeeds, yields, hanswer, ?_⟩,
    only_finite_samples.2.2 metric 3 _ ?_⟩
  · rw [hanswer] at hshown
    exact hshown
  · have polls : Polls (.collect (some answer)) := by
      rw [hanswer]
      exact ⟨_, hxs⟩
    exact List.forall_mem_cons.2 ⟨polls, List.forall_mem_cons.2 ⟨trivial,
      List.forall_mem_singleton.2 polls⟩⟩

end Prometheus

end PredictiveScaling
