import PredictiveScaling.Proofs.Json.Fields
import PredictiveScaling.Proofs.Remote.Framing
import PredictiveScaling.Remote.Predictor

/-!
# What a report says

A training ends as trained or as rejected only if the first line of what arrives is a record that
says so (`TrainReport.Tells`): it names the model or none, it describes no error, and what it writes
of a field has the type of that field. Whatever else arrives is a failure
(`TrainingOutcome.ofArrival_bytes`).
-/
namespace PredictiveScaling

open Json (Unset)

/-! ## Described errors -/

/-- Only `null` and the empty string describe no error. -/
theorem errorText?_eq_empty_iff {room : Nat} {j : Json} :
    errorText? room j = some "" ↔ j = .null ∨ j = .string (some "") := by
  have render_ne : ∀ d : Json.Document, d.render ≠ "" := by
    intro d h
    have hchars := congrArg String.toList h
    rw [Json.Document.render, String.toList_ofList] at hchars
    exact d.chars_ne_nil hchars
  rw [errorText?, Option.map_eq_some_iff]
  constructor
  · rintro ⟨d, hd, htext⟩
    cases j with
    | null => exact .inl rfl
    | string t =>
      obtain ⟨s, rfl, rfl⟩ := Option.map_eq_some_iff.1 hd
      exact .inr (congrArg (fun s => Json.string (some s)) htext)
    | bool b =>
      cases hd
      exact absurd htext (render_ne _)
    | number n =>
      obtain ⟨v, -, rfl⟩ := Option.map_eq_some_iff.1 hd
      cases v <;> exact absurd htext (render_ne _)
    | array xs =>
      cases room with
      | zero => cases hd
      | succ room =>
        obtain ⟨ds, -, rfl⟩ := Option.map_eq_some_iff.1 hd
        exact absurd htext (render_ne _)
    | object ms =>
      cases room with
      | zero => cases hd
      | succ room =>
        obtain ⟨ds, -, rfl⟩ := Option.map_eq_some_iff.1 hd
        exact absurd htext (render_ne _)
  · rintro (rfl | rfl)
    · exact ⟨.null, rfl, rfl⟩
    · exact ⟨.string "", rfl, rfl⟩

/-! ## Reports -/

namespace TrainReport

/-- Fields of a report for the model with this key that describes no error and says whether the
model is trained, and with which loss. -/
structure States (key : String) (trained : Bool) (loss : Float) (field : String → Option Json) :
    Prop where
  trained_eq : field "trained" = some (.bool trained) ∨ Unset (field "trained") ∧ trained = false
  key_eq : field "key" = some (.string (some key)) ∨ Unset (field "key")
  loss_eq : (∃ n v, field "loss" = some (.number n) ∧ n.value? = some v ∧ v.toFloat = loss) ∨
    Unset (field "loss") ∧ loss = 0.0
  error_eq : field "error" = some (.string (some "")) ∨ Unset (field "error")

/-- The first line of these bytes, or all of them, is a record with such fields. -/
def Tells (key : String) (trained : Bool) (loss : Float) (bs : List UInt8) : Prop :=
  ∃ j field, Json.parse? (Line.first bs) = some j ∧ Json.WritesRecord fieldNames field j ∧
    States key trained loss field

/-- A report is for the model with this key, or says nothing of whom it is for, and describes no
error. -/
def Accepted (key : String) (report : TrainReport) : Prop :=
  (report.key = none ∨ report.key = some key) ∧ report.error = ""

variable {key : String} {trained : Bool} {loss : Float} {bs : List UInt8} {report : TrainReport}

/-- Only the fields of a report matter. -/
theorem States.congr {field field' : String → Option Json} (h : States key trained loss field)
    (same : ∀ name ∈ fieldNames, field' name = field name) : States key trained loss field' := by
  obtain ⟨htrained, hkey, hloss, herror⟩ := h
  rw [← same _ (by decide)] at htrained hkey hloss herror
  exact ⟨htrained, hkey, hloss, herror⟩

theorem ofJson?_eq_some_iff {r : Json.Record} {j : Json}
    (h : Json.record? fieldNames j = some r) : ofJson? j = some report ↔
      r.withDefault? "trained" false (Json.orDefault? false Json.bool?) = some report.trained ∧
      r.withDefault? "key" none (Json.nullable? Json.string?) = some report.key ∧
      r.withDefault? "loss" none (Json.nullable? Json.float?) = some report.loss ∧
      r.withDefault? "error" "" (errorText? messageRoom) = some report.error := by
  obtain ⟨trained, key, loss, error⟩ := report
  simp only [ofJson?, h, Option.bind_eq_bind, Option.bind_some, Option.bind_eq_some_iff]
  constructor
  · rintro ⟨t, ht, k, hk, l, hl, e, he, heq⟩
    cases heq
    exact ⟨ht, hk, hl, he⟩
  · rintro ⟨ht, hk, hl, he⟩
    exact ⟨_, ht, _, hk, _, hl, _, he, rfl⟩

variable {r : Json.Record}

theorem key_iff :
    (∃ k, r.withDefault? "key" none (Json.nullable? Json.string?) = some k ∧
      (k = none ∨ k = some key)) ↔
      r.find? "key" = some (.string (some key)) ∨ Unset (r.find? "key") := by
  constructor
  · rintro ⟨k, hk, rfl | rfl⟩
    · exact .inr (Json.Record.withDefault?_eq_some_none.1 hk)
    · obtain ⟨j, hj, hread⟩ := (Json.Record.withDefault?_eq_some_some rfl).1 hk
      exact .inl (Json.string?_eq_some_iff.1 hread ▸ hj)
  · rintro (hkey | unset)
    · exact ⟨some key, (Json.Record.withDefault?_eq_some_some rfl).2 ⟨_, hkey, rfl⟩, .inr rfl⟩
    · exact ⟨none, Json.Record.withDefault?_eq_some_none.2 unset, .inl rfl⟩

theorem loss_iff :
    (∃ l, r.withDefault? "loss" none (Json.nullable? Json.float?) = some l ∧
      l.getD 0.0 = loss) ↔
      (∃ n v, r.find? "loss" = some (.number n) ∧ n.value? = some v ∧ v.toFloat = loss) ∨
        Unset (r.find? "loss") ∧ loss = 0.0 := by
  constructor
  · rintro ⟨l, hl, rfl⟩
    cases l with
    | none => exact .inr ⟨Json.Record.withDefault?_eq_some_none.1 hl, rfl⟩
    | some x =>
      obtain ⟨j, hj, hread⟩ := (Json.Record.withDefault?_eq_some_some rfl).1 hl
      obtain ⟨n, v, rfl, hv, hx⟩ := Json.float?_eq_some_iff.1 hread
      exact .inl ⟨n, v, hj, hv, hx⟩
  · rintro (⟨n, v, hn, hv, rfl⟩ | ⟨unset, rfl⟩)
    · have hread := Json.float?_eq_some_iff.2 ⟨n, v, rfl, hv, rfl⟩
      exact ⟨_, (Json.Record.withDefault?_eq_some_some rfl).2 ⟨_, hn, hread⟩, rfl⟩
    · exact ⟨none, Json.Record.withDefault?_eq_some_none.2 unset, rfl⟩

theorem error_iff : r.withDefault? "error" "" (errorText? messageRoom) = some "" ↔
    r.find? "error" = some (.string (some "")) ∨ Unset (r.find? "error") := by
  rw [Json.Record.withDefault?, Unset]
  cases r.find? "error" with
  | none => simp
  | some j => simp [errorText?_eq_empty_iff, or_comm]

/-- Fields say so if and only if the report that is read of them does. -/
theorem states_find?_iff {j : Json} (h : Json.record? fieldNames j = some r) :
    States key trained loss r.find? ↔ ∃ report, ofJson? j = some report ∧ Accepted key report ∧
      report.trained = trained ∧ report.loss.getD 0.0 = loss := by
  have htrained : r.withDefault? "trained" false (Json.orDefault? false Json.bool?) =
      some trained ↔ r.find? "trained" = some (.bool trained) ∨
        Unset (r.find? "trained") ∧ trained = false := by
    rw [Json.Record.withDefault?_orDefault?_eq_some_iff rfl]
    simp only [Json.bool?_eq_some_iff, exists_eq_right]
  constructor
  · rintro ⟨trained_eq, key_eq, loss_eq, error_eq⟩
    obtain ⟨k, hk, hkey⟩ := key_iff.2 key_eq
    obtain ⟨l, hl, hloss⟩ := loss_iff.2 loss_eq
    exact ⟨⟨trained, k, l, ""⟩, (ofJson?_eq_some_iff h).2
      ⟨htrained.2 trained_eq, hk, hl, error_iff.2 error_eq⟩, ⟨hkey, rfl⟩, rfl, hloss⟩
  · rintro ⟨report, hread, ⟨hkey, herror⟩, rfl, hloss⟩
    obtain ⟨ht, hk, hl, he⟩ := (ofJson?_eq_some_iff h).1 hread
    exact ⟨htrained.1 ht, key_iff.1 ⟨_, hk, hkey⟩, loss_iff.1 ⟨_, hl, hloss⟩,
      error_iff.1 (herror ▸ he)⟩

theorem tells_iff : Tells key trained loss bs ↔
    ∃ report, Line.read ofJson? bs = .ok report ∧ Accepted key report ∧
      report.trained = trained ∧ report.loss.getD 0.0 = loss := by
  have distinct : fieldNames.Nodup := by decide
  constructor
  · rintro ⟨j, field, hparse, hwrites, hstates⟩
    obtain ⟨r, hrecord, hfind⟩ := (Json.writesRecord_iff distinct).1 hwrites
    obtain ⟨report, hread, hreport⟩ := (states_find?_iff hrecord).1 (hstates.congr hfind)
    exact ⟨report, Line.read_eq_ok_iff.2 (by rw [hparse]; exact hread), hreport⟩
  · rintro ⟨report, hread, hreport⟩
    obtain ⟨j, hparse, hj⟩ := Option.bind_eq_some_iff.1 (Line.read_eq_ok_iff.1 hread)
    obtain ⟨r, hrecord, -⟩ := Option.bind_eq_some_iff.1 hj
    exact ⟨j, r.find?, hparse, (Json.writesRecord_iff distinct).2 ⟨r, hrecord, fun _ _ => rfl⟩,
      (states_find?_iff hrecord).2 ⟨report, hj, hreport⟩⟩

end TrainReport

/-! ## Outcomes -/

namespace TrainingOutcome

variable {key : String} {report : TrainReport}

theorem ofReport_of_accepted (h : TrainReport.Accepted key report) : ofReport key report =
    if report.trained then .trained (report.loss.getD 0.0) else .rejected := by
  obtain ⟨hkey, herror⟩ := h
  have hrest : ofReport.rest report =
      if report.trained then .trained (report.loss.getD 0.0) else .rejected :=
    if_neg (not_not_intro herror)
  rw [ofReport]
  obtain hnone | hsome := hkey
  · rw [hnone]
    exact hrest
  · rw [hsome]
    exact (if_neg (not_not_intro rfl)).trans hrest

theorem ofReport_of_not_accepted (h : ¬ TrainReport.Accepted key report) :
    ∃ reason, ofReport key report = .failed reason := by
  by_cases hkey : report.key = none ∨ report.key = some key
  · have hrest : ofReport.rest report = .failed (.stated report.error) :=
      if_pos fun herror => h ⟨hkey, herror⟩
    refine ⟨_, (Eq.trans ?_ hrest)⟩
    rw [ofReport]
    obtain hnone | hsome := hkey
    · rw [hnone]
    · rw [hsome]
      exact if_neg (not_not_intro rfl)
  · obtain ⟨hnone, hother⟩ := not_or.1 hkey
    obtain ⟨other, hsome⟩ := Option.ne_none_iff_exists'.1 hnone
    refine ⟨.otherModel other, ?_⟩
    rw [ofReport, hsome]
    exact if_pos fun heq => hother (hsome.trans (congrArg some heq))

/-- How a training ends is decided by what the report says, if it says anything. -/
theorem ofArrival_of_tells {trained : Bool} {loss : Float} {bs : List UInt8}
    (h : TrainReport.Tells key trained loss bs) :
    ofArrival key (.bytes bs) = if trained then .trained loss else .rejected := by
  obtain ⟨report, hread, haccepted, rfl, rfl⟩ := TrainReport.tells_iff.1 h
  rw [ofArrival, hread]
  exact ofReport_of_accepted haccepted

theorem ofArrival_of_not_tells {bs : List UInt8}
    (h : ∀ trained loss, ¬ TrainReport.Tells key trained loss bs) :
    ∃ reason, ofArrival key (.bytes bs) = .failed reason := by
  rw [ofArrival]
  cases hread : Line.read TrainReport.ofJson? bs with
  | error cause => exact ⟨_, rfl⟩
  | ok report =>
    exact ofReport_of_not_accepted fun haccepted =>
      h _ _ (TrainReport.tells_iff.2 ⟨report, hread, haccepted, rfl, rfl⟩)

/-- Bytes that arrive end a training as trained or rejected exactly if they say so, and in every
other case as failed; behind a line feed there may be anything. -/
theorem ofArrival_bytes (key : String) (bs : List UInt8) :
    (∀ loss, ofArrival key (.bytes bs) = .trained loss ↔ TrainReport.Tells key true loss bs) ∧
    (ofArrival key (.bytes bs) = .rejected ↔ ∃ loss, TrainReport.Tells key false loss bs) ∧
    ((∃ reason, ofArrival key (.bytes bs) = .failed reason) ↔
      ∀ trained loss, ¬ TrainReport.Tells key trained loss bs) ∧
    ∀ rest rest', ofArrival key (.bytes (bs ++ Line.lineFeed :: rest)) =
      ofArrival key (.bytes (bs ++ Line.lineFeed :: rest')) := by
  have decided : (∃ trained loss, TrainReport.Tells key trained loss bs) ∨
      ∃ reason, ofArrival key (.bytes bs) = .failed reason := by
    by_cases h : ∃ trained loss, TrainReport.Tells key trained loss bs
    · exact .inl h
    · exact .inr (ofArrival_of_not_tells fun trained loss tells => h ⟨trained, loss, tells⟩)
  refine ⟨fun loss => ⟨fun h => ?_, ofArrival_of_tells⟩,
    ⟨fun h => ?_, fun ⟨loss, tells⟩ => ofArrival_of_tells tells⟩,
    ⟨fun ⟨reason, h⟩ trained loss tells => ?_, ofArrival_of_not_tells⟩, fun rest rest' => ?_⟩
  · obtain ⟨trained, loss', tells⟩ | ⟨reason, hfailed⟩ := decided
    · have htold := (ofArrival_of_tells tells).symm.trans h
      cases trained with
      | false => cases htold
      | true =>
        cases htold
        exact tells
    · cases hfailed.symm.trans h
  · obtain ⟨trained, loss, tells⟩ | ⟨reason, hfailed⟩ := decided
    · have htold := (ofArrival_of_tells tells).symm.trans h
      cases trained with
      | false => exact ⟨loss, tells⟩
      | true => cases htold
    · cases hfailed.symm.trans h
  · have htold := (ofArrival_of_tells tells).symm.trans h
    cases trained <;> cases htold
  · rw [ofArrival, ofArrival, Line.read_append_lineFeed _ bs rest,
      Line.read_append_lineFeed _ bs rest']

end TrainingOutcome

end PredictiveScaling
