import PredictiveScaling.Proofs.Remote.Lifecycle
import PredictiveScaling.Remote.Session
import Mathlib.Data.List.Induction

/-!
# What the readiness flag tells

A served model has its say on whether it is trained in two ways: by a report that a waiting
round takes for its own, and by a reply to a request for a forecast that says, without an
error, that the model is not trained. Nothing else touches the flag, be it late, lost,
garbled, an error or about another model (`isReady_undergo`, `Silent.isReady_undergo`). So
the flag is the last word of the model, and it is not set before the first report of
success (`isReady_foldl_undergo`).

The flag does not remember when the request of a reply was sent. A reply that is late speaks
for the model as any other does, and takes back what a training has given in the meantime
(`readiness_undergo_reply`).
-/
namespace PredictiveScaling

/-- What an arrival says about the model with this key: whether it is trained, if it is a
report that describes no error and names this model or none. -/
def Arrival.verdict? (key : String) : Arrival → Option Bool
  | .bytes bs =>
    match Line.read TrainReport.ofJson? bs with
    | .ok report =>
      if (report.key = none ∨ report.key = some key) ∧ report.error = "" then some report.trained
      else none
    | .error _ => none
  | .fault _ => none
  | .nothing => none

namespace RemotePredictor

/-- A round that waits ends with a report that says whether the model is trained. -/
def Accepts (p : RemotePredictor) (trained : Bool) : RemoteEvent → Prop
  | .roundEnds round arrival =>
    ⟨round, .awaiting⟩ ∈ p.rounds ∧ arrival.verdict? p.key = some trained
  | _ => False

/-- A reply says, without an error, that the model is not trained. -/
def Disowns : RemoteEvent → Prop
  | .exchangeEnds _ (.ok reply) => reply.error = "" ∧ reply.trained = false
  | _ => False

instance (p : RemotePredictor) (trained : Bool) :
    (x : RemoteEvent) → Decidable (p.Accepts trained x)
  | .roundEnds .. => inferInstanceAs (Decidable (_ ∧ _))
  | .trainingBegins _ => inferInstanceAs (Decidable False)
  | .dispatchEnds .. => inferInstanceAs (Decidable False)
  | .exchangeEnds .. => inferInstanceAs (Decidable False)

variable {p : RemotePredictor} {x : RemoteEvent} {key : String} {arrival : Arrival}

/-! ## Reports -/

/-- Only a report that can be read, describes no error and is not about another model says
anything. -/
theorem verdict?_eq_some_iff {trained : Bool} : arrival.verdict? key = some trained ↔
    ∃ bs report, arrival = .bytes bs ∧ Line.read TrainReport.ofJson? bs = .ok report ∧
      (report.key = none ∨ report.key = some key) ∧ report.error = "" ∧
      report.trained = trained := by
  constructor
  · intro h
    cases arrival with
    | bytes bs =>
      rw [Arrival.verdict?] at h
      split at h
      · next report hread =>
        obtain ⟨⟨hkey, herror⟩, htrained⟩ := Option.ite_none_right_eq_some.1 h
        exact ⟨bs, report, rfl, hread, hkey, herror, Option.some.inj htrained⟩
      · cases h
    | fault cause => cases h
    | nothing => cases h
  · rintro ⟨bs, report, rfl, hread, hkey, herror, htrained⟩
    simp only [Arrival.verdict?, hread, if_pos (And.intro hkey herror), htrained]

/-- The end of a round without an error in the report, and about this model, leaves the flag
as the report tells. -/
theorem ready_conclude_rest (r : ModelReadiness) (report : TrainReport) :
    (r.conclude (TrainingOutcome.ofReport.rest report)).ready =
      if report.error = "" then report.trained else r.ready := by
  rw [TrainingOutcome.ofReport.rest]
  by_cases herror : report.error = ""
  · rw [if_neg (not_not_intro herror), if_pos herror]
    cases report.trained <;> rfl
  · rw [if_pos herror, if_neg herror]
    rfl

theorem ready_conclude_ofReport (r : ModelReadiness) (key : String) (report : TrainReport) :
    (r.conclude (.ofReport key report)).ready =
      if (report.key = none ∨ report.key = some key) ∧ report.error = "" then report.trained
      else r.ready := by
  rw [TrainingOutcome.ofReport]
  cases hkey : report.key with
  | none => simp [ready_conclude_rest]
  | some other =>
    by_cases hother : other = key
    · simp [hother, ready_conclude_rest]
    · simp [hother, ModelReadiness.conclude, ModelReadiness.abort]

/-- The end of a round leaves the flag as the report tells, or else as it is. -/
theorem ready_conclude (r : ModelReadiness) (key : String) (arrival : Arrival) :
    (r.conclude (.ofArrival key arrival)).ready = (arrival.verdict? key).getD r.ready := by
  cases arrival with
  | nothing => rfl
  | fault cause => rfl
  | bytes bs =>
    rw [TrainingOutcome.ofArrival, Arrival.verdict?]
    cases Line.read TrainReport.ofJson? bs with
    | error cause => rfl
    | ok report =>
      dsimp only
      rw [ready_conclude_ofReport]
      split <;> rfl

/-! ## One event -/

/-- After an event the flag is set if the event is a report of success, or if it was set and
the model has not said that it is not trained. -/
theorem isReady_undergo (p : RemotePredictor) (x : RemoteEvent) :
    (p.undergo x).isReady = true ↔
      p.Accepts true x ∨ p.isReady = true ∧ ¬ p.Accepts false x ∧ ¬ Disowns x := by
  cases x with
  | trainingBegins samples =>
    have hsame : (p.undergo (.trainingBegins samples)).isReady = p.isReady := by
      rw [undergo]
      split
      · next r p' hbegin =>
        obtain ⟨-, -, rfl⟩ := beginRound_eq_ok hbegin
        rfl
      · rfl
    simp only [hsame, Accepts, Disowns, false_or, not_false_eq_true, and_true]
  | dispatchEnds round result =>
    have hsame : (p.undergo (.dispatchEnds round result)).isReady = p.isReady := by
      simp only [undergo]
      split
      · cases result <;> rfl
      · rfl
    simp only [hsame, Accepts, Disowns, false_or, not_false_eq_true, and_true]
  | exchangeEnds request answer =>
    cases answer with
    | error cause =>
      simp only [undergo, takeExchange, Accepts, Disowns, false_or, not_false_eq_true, and_true]
    | ok reply =>
      simp only [undergo, takeExchange, takeReply, Accepts, Disowns, false_or, not_false_eq_true,
        true_and]
      by_cases herror : reply.error = ""
      · by_cases htrained : reply.trained = true
        · simp [herror, htrained]
        · simp [herror, htrained, isReady, ModelReadiness.invalidate]
      · simp [herror]
  | roundEnds round arrival =>
    simp only [undergo, Accepts, Disowns, not_false_eq_true, and_true]
    by_cases mem : ⟨round, .awaiting⟩ ∈ p.rounds
    · have hready : (p.endRound round (.ofArrival p.key arrival)).isReady =
          (arrival.verdict? p.key).getD p.isReady := ready_conclude p.readiness p.key arrival
      simp only [mem, if_true, true_and, hready]
      cases arrival.verdict? p.key with
      | none => simp
      | some trained => cases trained <;> simp
    · simp only [mem, if_false, false_and, false_or, not_false_eq_true, and_true]

/-! ## Positions in a run -/

/-- The predictor after so many events of a run. -/
def stage (p : RemotePredictor) (xs : List RemoteEvent) (n : Nat) : RemotePredictor :=
  (xs.take n).foldl undergo p

/-- The event at this position of a run is of some kind, given what the predictor has come to
by then. -/
def OccursAt (p : RemotePredictor) (xs : List RemoteEvent)
    (kind : RemotePredictor → RemoteEvent → Prop) (n : Nat) : Prop :=
  ∃ x, xs[n]? = some x ∧ kind (p.stage xs n) x

variable {xs : List RemoteEvent} {kind : RemotePredictor → RemoteEvent → Prop} {n : Nat}

theorem OccursAt.lt_length (h : p.OccursAt xs kind n) : n < xs.length := by
  obtain ⟨x, hx, -⟩ := h
  exact (List.getElem?_eq_some_iff.1 hx).1

/-- One more event of a run occurs last. -/
theorem occursAt_snoc : p.OccursAt (xs ++ [x]) kind n ↔
    p.OccursAt xs kind n ∨ n = xs.length ∧ kind (xs.foldl undergo p) x := by
  have hstage (hn : n ≤ xs.length) : p.stage (xs ++ [x]) n = p.stage xs n := by
    rw [stage, List.take_append_of_le_length hn, stage]
  have hend : p.stage xs xs.length = xs.foldl undergo p := by rw [stage, List.take_length]
  constructor
  · rintro ⟨y, hy, hkind⟩
    obtain hlt | rfl | hgt := Nat.lt_trichotomy n xs.length
    · rw [hstage (Nat.le_of_lt hlt)] at hkind
      rw [List.getElem?_append_left hlt] at hy
      exact .inl ⟨y, hy, hkind⟩
    · rw [hstage (Nat.le_refl _), hend] at hkind
      rw [List.getElem?_concat_length] at hy
      cases hy
      exact .inr ⟨rfl, hkind⟩
    · have hlength : (xs ++ [x]).length ≤ n := by
        rw [List.length_append, List.length_singleton]
        omega
      rw [List.getElem?_eq_none hlength] at hy
      cases hy
  · rintro (h | ⟨rfl, hkind⟩)
    · have hlt := h.lt_length
      obtain ⟨y, hy, hkind⟩ := h
      exact ⟨y, by rw [List.getElem?_append_left hlt, hy], by rwa [hstage (Nat.le_of_lt hlt)]⟩
    · exact ⟨x, List.getElem?_concat_length, by rwa [hstage (Nat.le_refl _), hend]⟩

/-! ## The whole run -/

/-- The model says that it is not trained, in a report or in a reply. -/
def Fails (p : RemotePredictor) (x : RemoteEvent) : Prop := p.Accepts false x ∨ Disowns x

/-- The flag is set if the model has said last that it is trained. -/
theorem isReady_foldl_undergo (h : p.isReady = false) (xs : List RemoteEvent) :
    (xs.foldl undergo p).isReady = true ↔
      ∃ n, p.OccursAt xs (Accepts · true) n ∧
        ∀ m, n < m → ¬ p.OccursAt xs (Accepts · true) m ∧ ¬ p.OccursAt xs Fails m := by
  induction xs using List.reverseRecOn with
  | nil =>
    refine iff_of_false (by simp [h]) ?_
    rintro ⟨n, hn, -⟩
    exact Nat.not_lt_zero n hn.lt_length
  | append_singleton xs x ih =>
    rw [List.foldl_append, List.foldl_cons, List.foldl_nil, isReady_undergo, ih]
    simp only [occursAt_snoc]
    constructor
    · intro hready
      by_cases hx : (xs.foldl undergo p).Accepts true x
      -- A report of success at the end has nothing after it.
      · have hlast (m) (hm : xs.length < m) (kind : RemotePredictor → RemoteEvent → Prop) :
            ¬ (p.OccursAt xs kind m ∨ m = xs.length ∧ kind (xs.foldl undergo p) x) := by
          rintro (hm' | ⟨rfl, -⟩)
          · exact Nat.lt_asymm hm hm'.lt_length
          · exact Nat.lt_irrefl _ hm
        exact ⟨xs.length, .inr ⟨rfl, hx⟩, fun m hm => ⟨hlast m hm _, hlast m hm _⟩⟩
      -- Otherwise the flag was set before, and the event at the end says nothing against it.
      · obtain hx' | ⟨⟨n, hn, hlast⟩, hreport, hreply⟩ := hready
        · exact absurd hx' hx
        · refine ⟨n, .inl hn, fun m hm => ⟨?_, ?_⟩⟩
          · rintro (hm' | ⟨-, hx'⟩)
            · exact (hlast m hm).1 hm'
            · exact hx hx'
          · rintro (hm' | ⟨-, hx' | hx'⟩)
            · exact (hlast m hm).2 hm'
            · exact hreport hx'
            · exact hreply hx'
    · rintro ⟨n, hn | ⟨-, hx⟩, hlast⟩
      · have hsilent := (hlast xs.length hn.lt_length).2
        refine .inr ⟨⟨n, hn, fun m hm => ⟨?_, ?_⟩⟩, ?_, ?_⟩
        · exact fun hm' => (hlast m hm).1 (.inl hm')
        · exact fun hm' => (hlast m hm).2 (.inl hm')
        · exact fun hx => hsilent (.inr ⟨rfl, .inl hx⟩)
        · exact fun hx => hsilent (.inr ⟨rfl, .inr hx⟩)
      · exact .inl hx

/-! ## What does not count -/

/-- Events that say nothing about whether the model with this key is trained. -/
inductive Silent (key : String) : RemoteEvent → Prop
  /-- A training is called for. -/
  | begins (samples : Buffer) : Silent key (.trainingBegins samples)
  /-- The request of a training went out, or could not. -/
  | dispatched (round : Nat) (result : Except PredictError Unit) :
      Silent key (.dispatchEnds round result)
  /-- No report came in time. -/
  | timedOut (round : Nat) : Silent key (.roundEnds round .nothing)
  /-- The report could not be received. -/
  | unreceived (round : Nat) (cause : TransportFault) : Silent key (.roundEnds round (.fault cause))
  /-- What came is no report. -/
  | malformed (round : Nat) {bs : List UInt8} {cause : TransportFault}
      (unread : Line.read TrainReport.ofJson? bs = .error cause) :
      Silent key (.roundEnds round (.bytes bs))
  /-- The report describes an error. -/
  | reportedError (round : Nat) {bs : List UInt8} {report : TrainReport}
      (read : Line.read TrainReport.ofJson? bs = .ok report) (error : report.error ≠ "") :
      Silent key (.roundEnds round (.bytes bs))
  /-- The report is about another model. -/
  | otherModel (round : Nat) {bs : List UInt8} {report : TrainReport} {other : String}
      (read : Line.read TrainReport.ofJson? bs = .ok report) (named : report.key = some other)
      (ne : other ≠ key) : Silent key (.roundEnds round (.bytes bs))
  /-- A request for a forecast could not be sent, or was not answered in time or in form. -/
  | unanswered (request : PredictRequest) (cause : PredictError) :
      Silent key (.exchangeEnds request (.error cause))
  /-- A reply describes an error. -/
  | repliedError (request : PredictRequest) {reply : PredictReply} (error : reply.error ≠ "") :
      Silent key (.exchangeEnds request (.ok reply))

theorem Silent.not_accepts {trained : Bool} (h : Silent p.key x) : ¬ p.Accepts trained x := by
  cases h with
  | begins | dispatched | unanswered | repliedError => exact id
  | timedOut round => rintro ⟨-, h⟩; cases h
  | unreceived round cause => rintro ⟨-, h⟩; cases h
  | malformed round unread =>
    rintro ⟨-, h⟩
    obtain ⟨bs, report, hbs, hread, -⟩ := verdict?_eq_some_iff.1 h
    cases hbs
    rw [unread] at hread
    cases hread
  | reportedError round read error =>
    rintro ⟨-, h⟩
    obtain ⟨bs, report, hbs, hread, -, herror, -⟩ := verdict?_eq_some_iff.1 h
    cases hbs
    rw [read] at hread
    cases hread
    exact error herror
  | otherModel round read named ne =>
    rintro ⟨-, h⟩
    obtain ⟨bs, report, hbs, hread, hkey, -⟩ := verdict?_eq_some_iff.1 h
    cases hbs
    rw [read] at hread
    cases hread
    rw [named] at hkey
    obtain hkey | hkey := hkey
    · cases hkey
    · exact ne (Option.some.inj hkey)

theorem Silent.not_disowns (h : Silent key x) : ¬ Disowns x := by
  cases h with
  | repliedError request error => exact fun hx => error hx.1
  | _ => exact id

/-- An event that says nothing leaves the flag. -/
theorem Silent.isReady_undergo (h : Silent p.key x) : (p.undergo x).isReady = p.isReady := by
  have hready := RemotePredictor.isReady_undergo p x
  rw [Bool.eq_iff_iff, hready]
  simp only [h.not_accepts, h.not_disowns, false_or, not_false_eq_true, and_true]

/-- Neither does a dispatch that is given up touch the flag. -/
theorem isReady_abandonDispatch (p : RemotePredictor) (d : Dispatch) (s : Sockets) :
    (p.abandonDispatch d s).1.isReady = p.isReady :=
  rfl

/-- A predictor stays the one of its model, whatever happens to it. -/
theorem identity_undergo (p : RemotePredictor) (x : RemoteEvent) :
    (p.undergo x).key = p.key ∧ (p.undergo x).params = p.params := by
  cases x with
  | trainingBegins samples =>
    rw [undergo]
    split
    · next r p' hbegin =>
      obtain ⟨-, -, rfl⟩ := beginRound_eq_ok hbegin
      exact ⟨rfl, rfl⟩
    · exact ⟨rfl, rfl⟩
  | dispatchEnds round result =>
    simp only [undergo]
    split
    · cases result <;> exact ⟨rfl, rfl⟩
    · exact ⟨rfl, rfl⟩
  | exchangeEnds request answer =>
    cases answer with
    | error cause => exact ⟨rfl, rfl⟩
    | ok reply =>
      simp only [undergo, takeExchange, takeReply]
      split
      · exact ⟨rfl, rfl⟩
      · split <;> exact ⟨rfl, rfl⟩
  | roundEnds round arrival =>
    rw [undergo]
    split <;> exact ⟨rfl, rfl⟩

theorem identity_foldl_undergo (p : RemotePredictor) (xs : List RemoteEvent) :
    (xs.foldl undergo p).key = p.key ∧ (xs.foldl undergo p).params = p.params := by
  induction xs generalizing p with
  | nil => exact ⟨rfl, rfl⟩
  | cons x xs ih =>
    obtain ⟨hkey, hparams⟩ := ih (p.undergo x)
    exact ⟨hkey.trans (identity_undergo p x).1, hparams.trans (identity_undergo p x).2⟩

/-! ## The whole life -/

/-- Without the flag a model is not asked for a forecast. -/
theorem predict_of_not_isReady (h : p.isReady = false) (s : Session) (i : Nat)
    (hp : s.predictors.get? i = some p) (reply : Option (List UInt8)) :
    s.predict i reply = some (⟨.error .modelNotReady, []⟩, s) := by
  simp [Session.predict, hp, predictRequest, h, Exchange.failed]

/-- Whatever happens to a predictor, and in whatever order: its flag is set exactly if some
report of success was the last that the model said about its training; an event that says
nothing about it leaves the flag; and before the first report of success nothing is sent to ask
for a forecast, and the model is said not to be ready. -/
theorem isReady_iff_last_word {params : RemoteParams} (h : new key params = .ok p)
    (xs : List RemoteEvent) :
    let q := xs.foldl undergo p
    (q.isReady = true ↔ ∃ n, p.OccursAt xs (Accepts · true) n ∧
      ∀ m, n < m → ¬ p.OccursAt xs (Accepts · true) m ∧ ¬ p.OccursAt xs Fails m) ∧
    (∀ x, Silent key x → (q.undergo x).isReady = q.isReady) ∧
    ((∀ n, ¬ p.OccursAt xs (Accepts · true) n) → ∀ (s : Session) i reply,
      s.predictors.get? i = some q →
        s.predict i reply = some (⟨.error .modelNotReady, []⟩, s)) := by
  obtain rfl := untrained_of_new h
  have hflag := isReady_foldl_undergo (p := untrained key params) rfl xs
  have hkey : (xs.foldl undergo (untrained key params)).key = key :=
    (identity_foldl_undergo _ xs).1
  intro q
  refine ⟨hflag, ?_, ?_⟩
  · intro x hx
    rw [← hkey] at hx
    exact hx.isReady_undergo
  · intro hnever s i reply hi
    refine predict_of_not_isReady (Bool.eq_false_iff.2 fun hready => ?_) s i hi reply
    obtain ⟨n, hn, -⟩ := hflag.1 hready
    exact hnever n hn

/-- The first report of success sets the flag. During the second training a reply takes it
away, and that training times out, which leaves it so. While the first training went on no
request for a forecast was sent. -/
theorem isReady_iff_last_word_lostInTraining :
    let p := untrained "cpu$$q$remote" oneSampleParams
    let said := fun xs => ∃ n, p.OccursAt xs (Accepts · true) n ∧
      ∀ m, n < m → ¬ p.OccursAt xs (Accepts · true) m ∧ ¬ p.OccursAt xs Fails m
    let s := Session.start (Buffer.empty 0) [p.stage lostInTraining 2] true
    said (lostInTraining.take 3) ∧ ¬ said (lostInTraining.take 6) ∧
      ((p.stage lostInTraining 6).undergo (.roundEnds 1 .nothing)).isReady = false ∧
      s.predict 0 none = some (⟨.error .modelNotReady, []⟩, s) := by
  intro p said s
  have made : new "cpu$$q$remote" oneSampleParams = .ok p := by rfl
  obtain ⟨set, -⟩ := isReady_iff_last_word made (lostInTraining.take 3)
  obtain ⟨taken, silent, -⟩ := isReady_iff_last_word made (lostInTraining.take 6)
  obtain ⟨-, -, asked⟩ := isReady_iff_last_word made (lostInTraining.take 2)
  have ready : (p.stage lostInTraining 3).isReady = true := by decide +kernel
  have lost : (p.stage lostInTraining 6).isReady = false := by decide +kernel
  refine ⟨set.1 ready, fun h => ?_, ?_, asked ?_ s 0 none rfl⟩
  · have hready : (p.stage lostInTraining 6).isReady = true := taken.2 h
    rw [lost] at hready
    cases hready
  · exact (silent _ (.timedOut 1)).trans lost
  · rintro n ⟨x, hx, haccepts⟩
    match n with
    | 0 => cases hx; exact haccepts
    | 1 => cases hx; exact haccepts
    | n + 2 => cases hx

/-! ## Late replies -/

/-- What is left of a ready model after a reply that says that it is not trained. -/
theorem readiness_undergo_reply (ready : p.readiness = ⟨true, .ready⟩) (request : PredictRequest)
    {reply : PredictReply} (lost : reply.trained = false) :
    (p.undergo (.exchangeEnds request (.ok reply))).readiness =
      if reply.error = "" then ⟨false, .untrained⟩ else ⟨true, .ready⟩ := by
  by_cases herror : reply.error = ""
  · simp [undergo, takeExchange, takeReply, herror, lost, ready, ModelReadiness.invalidate]
  · simp [undergo, takeExchange, takeReply, herror, ready]

/-- While a report of success is the last that the model has said and no round is in flight, a
reply that says that the model is not trained leaves the model ready exactly if it describes an
error. Any other one, and be it the reply to a request that was sent before the training that the
report is about, takes the flag away, and until the next report of success nothing is sent to ask
for a forecast. -/
theorem late_reply_keeps_iff {params : RemoteParams} (h : new key params = .ok p)
    (said : p.OccursAt xs (Accepts · true) n)
    (last : ∀ m, n < m → ¬ p.OccursAt xs (Accepts · true) m ∧ ¬ p.OccursAt xs Fails m)
    (resting : (xs.foldl undergo p).readiness.phase ≠ .training) (request : PredictRequest)
    (reply : PredictReply) (lost : reply.trained = false) :
    let q := (xs.foldl undergo p).undergo (.exchangeEnds request (.ok reply))
    (xs.foldl undergo p).readiness = ⟨true, .ready⟩ ∧
      (q.readiness = ⟨true, .ready⟩ ↔ reply.error ≠ "") ∧
      (reply.error = "" → q.readiness = ⟨false, .untrained⟩ ∧
        ∀ ys, (∀ m, ¬ q.OccursAt ys (Accepts · true) m) → ∀ (s : Session) i reply',
          s.predictors.get? i = some (ys.foldl undergo q) →
            s.predict i reply' = some (⟨.error .modelNotReady, []⟩, s)) := by
  obtain rfl := untrained_of_new h
  have hready : (xs.foldl undergo (untrained key params)).readiness.ready = true :=
    (isReady_foldl_undergo rfl xs).2 ⟨n, said, last⟩
  have hphase := ((inStep_untrained key params).foldl_undergo xs).phase_eq_restingPhase resting
  have hboth : (xs.foldl undergo (untrained key params)).readiness = ⟨true, .ready⟩ := by
    rw [hready] at hphase
    generalize (xs.foldl undergo (untrained key params)).readiness = r at hready hphase
    obtain ⟨ready, phase⟩ := r
    cases hready
    cases hphase
    rfl
  have hafter := readiness_undergo_reply hboth request lost
  intro q
  refine ⟨hboth, ?_, ?_⟩
  · rw [hafter]
    split
    · next herror => exact iff_of_false (by decide) (not_not_intro herror)
    · next herror => exact iff_of_true rfl herror
  · intro herror
    rw [if_pos herror] at hafter
    refine ⟨hafter, fun ys hnever s i reply' hi => ?_⟩
    have hlost : q.isReady = false := by
      rw [isReady, hafter]
    refine predict_of_not_isReady (Bool.eq_false_iff.2 fun hset => ?_) s i hi reply'
    obtain ⟨m, hm, -⟩ := (isReady_foldl_undergo hlost ys).1 hset
    exact hnever m hm

/-- Two trainings, both with success. -/
def trainedTwice : List RemoteEvent :=
  let samples := (Buffer.empty 0).append [⟨1.0, 0⟩]
  let success := Line.write (TrainReport.toDocument ⟨true, none, none, ""⟩)
  [.trainingBegins samples, .dispatchEnds 0 (.ok ()), .roundEnds 0 (.bytes success),
    .trainingBegins samples, .dispatchEnds 1 (.ok ()), .roundEnds 1 (.bytes success)]

/-- After the first training a request for a forecast can go out. -/
theorem predictRequest_trainedTwice :
    ((untrained "cpu$$q$remote" oneSampleParams).stage trainedTwice 3).predictRequest
      ((Buffer.empty 0).append [⟨1.0, 0⟩]) = .ok ⟨"cpu$$q$remote", [1.0], 1, 1⟩ := by
  have ready :
      ((untrained "cpu$$q$remote" oneSampleParams).stage trainedTwice 3).isReady = true := by
    decide +kernel
  rw [predictRequest, ready]
  rfl

/-- The model is ready after the second training, and an answer to that request that says that it
is not trained, with an error, leaves it so. -/
theorem late_reply_keeps_iff_trainedTwice :
    let p := untrained "cpu$$q$remote" oneSampleParams
    let samples := (Buffer.empty 0).append [⟨1.0, 0⟩]
    ∃ request, (p.stage trainedTwice 3).predictRequest samples = .ok request ∧
      ((trainedTwice.foldl undergo p).undergo
        (.exchangeEnds request (.ok ⟨false, none, [], none, "busy"⟩))).readiness =
          ⟨true, .ready⟩ := by
  intro p samples
  have made : new "cpu$$q$remote" oneSampleParams = .ok p := by rfl
  have said : p.OccursAt trainedTwice (Accepts · true) 5 := ⟨_, rfl, by decide +kernel⟩
  have last (m) (hm : 5 < m) (kind : RemotePredictor → RemoteEvent → Prop) :
      ¬ p.OccursAt trainedTwice kind m := fun h => Nat.not_lt.2 hm h.lt_length
  obtain ⟨-, keeps, -⟩ := late_reply_keeps_iff made said
    (fun m hm => ⟨last m hm _, last m hm _⟩) (by decide +kernel) ⟨"cpu$$q$remote", [1.0], 1, 1⟩
    ⟨false, none, [], none, "busy"⟩ rfl
  exact ⟨_, predictRequest_trainedTwice, keeps.2 (by decide)⟩

/-- Without an error the answer takes away what the second training has given, although its
request is older. -/
theorem late_reply_takes_newer_training :
    let p := untrained "cpu$$q$remote" oneSampleParams
    let samples := (Buffer.empty 0).append [⟨1.0, 0⟩]
    ∃ request, (p.stage trainedTwice 3).predictRequest samples = .ok request ∧
      p.OccursAt trainedTwice (Accepts · true) 5 ∧
      (trainedTwice.foldl undergo p).readiness = ⟨true, .ready⟩ ∧
      ((trainedTwice.foldl undergo p).undergo
        (.exchangeEnds request (.ok ⟨false, none, [], none, ""⟩))).readiness =
          ⟨false, .untrained⟩ := by
  intro p samples
  have said : p.OccursAt trainedTwice (Accepts · true) 5 := ⟨_, rfl, by decide +kernel⟩
  exact ⟨_, predictRequest_trainedTwice, said, by decide +kernel, by decide +kernel⟩

end RemotePredictor

end PredictiveScaling
