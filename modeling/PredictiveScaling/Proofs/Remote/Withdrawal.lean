import PredictiveScaling.Proofs.Remote.Lifecycle
import PredictiveScaling.Proofs.Remote.Release

/-!
# Trainings that do not get out

A training is refused while the samples do not suffice or another one goes on, and it goes back on
what it has begun if nobody can listen for its report. To listen takes an endpoint that nobody has
and where nothing stands that cannot be removed, and a system that agrees; an attempt that fails,
also one that has claimed its endpoint already, leaves it to whom it was (`Sockets.bind_cases`). To
release the listener gives the endpoint up (`Sockets.release_of_get?`). In either case nothing but
the number of the next round tells afterwards that a round was begun
(`RemotePredictor.Reachable.rollBack_eq`).
-/
namespace PredictiveScaling

/-! ## Endpoints -/

namespace Sockets

variable {s s' : Sockets} {id : Nat} {e : Endpoint} {text : String} {phase : ListenerPhase}

/-- Who has an endpoint to itself: by the claim on its path, or because it is bound to it. -/
def holder? (s : Sockets) (e : Endpoint) : Option Nat :=
  match e.site with
  | .path path => s.claims.find? path
  | .tcp address => s.bound.find? address

/-- Nothing stands at the endpoint that cannot be removed. -/
def Clear (s : Sockets) (e : Endpoint) : Prop :=
  ∀ path cause, e.site = .path path → s.entries.find? path ≠ some (.fixed cause)

/-- Nobody has the endpoint, and nothing is in the way for good. -/
def Free (s : Sockets) (e : Endpoint) : Prop := s.holder? e = none ∧ s.Clear e

theorem clear_path_iff : s.Clear (.path text) ↔
    ∀ cause, s.entries.find? (.ofText text) ≠ some (.fixed cause) := by
  constructor
  · exact fun clear cause => clear _ cause rfl
  · rintro stays path cause ⟨⟩
    exact stays cause

theorem clear_tcp (s : Sockets) (address : String) : s.Clear (.tcp address) := nofun

theorem free_empty (e : Endpoint) : Sockets.empty.Free e := by
  cases e <;> exact ⟨rfl, nofun⟩

/-- Where somebody gets connections there is only its socket. -/
theorem Clear.of_listener? (h : s.listener? e = some id) : s.Clear e := by
  intro path cause site fixed
  rw [listener?, site, listenerAt?_eq_some_iff, fixed] at h
  cases h

/-- No more changes than what has to do with one listener and its endpoint. -/
structure Concerns (s s' : Sockets) (id : Nat) (e : Endpoint) : Prop where
  holder? : ∀ e', e'.site ≠ e.site → s'.holder? e' = s.holder? e'
  listener? : ∀ e', e'.site ≠ e.site → s'.listener? e' = s.listener? e'
  listeners : ∀ i ≠ id, s'.listeners.get? i = s.listeners.get? i
  refusal? : s'.refusal? = s.refusal?

theorem Concerns.refl (s : Sockets) (id : Nat) (e : Endpoint) : s.Concerns s id e :=
  ⟨fun _ _ => rfl, fun _ _ => rfl, fun _ _ => rfl, rfl⟩

/-- A change to what one path holds, to the claim on it and to one listener. -/
theorem Concerns.of_path
    (claims : ∀ q ≠ .ofText text, s'.claims.find? q = s.claims.find? q)
    (entries : ∀ q ≠ .ofText text, s'.entries.find? q = s.entries.find? q)
    (bound : s'.bound = s.bound)
    (listeners : ∀ i ≠ id, s'.listeners.get? i = s.listeners.get? i)
    (refusal? : s'.refusal? = s.refusal?) : s.Concerns s' id (.path text) := by
  refine ⟨fun e' he' => ?_, fun e' he' => ?_, listeners, refusal?⟩
  · cases e' with
    | path q => exact claims _ fun hq => he' (congrArg Site.path hq)
    | tcp address => exact congrArg (KeyMap.find? · address) bound
  · cases e' with
    | path q => exact listenerAt?_congr (entries _ fun hq => he' (congrArg Site.path hq))
    | tcp address => exact congrArg (KeyMap.find? · address) bound

/-- A change to who is bound to one address, and to one listener. -/
theorem Concerns.of_tcp {address : String}
    (bound : ∀ a ≠ address, s'.bound.find? a = s.bound.find? a) (claims : s'.claims = s.claims)
    (entries : s'.entries = s.entries)
    (listeners : ∀ i ≠ id, s'.listeners.get? i = s.listeners.get? i)
    (refusal? : s'.refusal? = s.refusal?) : s.Concerns s' id (.tcp address) := by
  refine ⟨fun e' he' => ?_, fun e' he' => ?_, listeners, refusal?⟩
  · cases e' with
    | path q => exact congrArg (KeyMap.find? · _) claims
    | tcp a => exact bound a fun ha => he' (congrArg Site.tcp ha)
  · cases e' with
    | path q => exact listenerAt?_congr (congrArg (KeyMap.find? · _) entries)
    | tcp a => exact bound a fun ha => he' (congrArg Site.tcp ha)

/-! ## Listening -/

/-- What it takes to listen on an endpoint, and what it leads to. -/
structure Listens (s s' : Sockets) (id : Nat) (e : Endpoint) : Prop where
  free : s.Free e
  willing : s.Willing
  fresh : id = s.listeners.size
  get? : s'.listeners.get? id = some ⟨e, .waiting⟩
  holder? : s'.holder? e = some id
  concerns : s.Concerns s' id e

/-- An attempt to listen that fails leaves the endpoint to whom it was, and clear if it was. -/
structure Fails (s s' : Sockets) (e : Endpoint) : Prop where
  hindered : ¬ (s.Free e ∧ s.Willing)
  holder? : s'.holder? e = s.holder? e
  clear : s.Clear e → s'.Clear e
  concerns : s.Concerns s' s.listeners.size e
  held : s.holder? e ≠ none → s' = s

theorem Fails.of_held (held : s.holder? e ≠ none) : s.Fails s e :=
  ⟨fun h => held h.1.1, rfl, fun clear => clear, .refl _ _ _, fun _ => rfl⟩

/-- A listener more, and what was claimed for it is given up again. -/
theorem Concerns.of_withdrawal {entries : KeyMap SocketPath PathEntry} {l : Listener}
    (same : ∀ q ≠ .ofText text, entries.find? q = s.entries.find? q) :
    s.Concerns { s with
      claims := (s.claims.insert (.ofText text) s.listeners.size).erase (.ofText text)
      entries, listeners := s.listeners.push l } s.listeners.size (.path text) := by
  refine .of_path (fun q hq => ?_) same rfl (fun i hi => ?_) rfl
  · exact (KeyMap.find?_erase_of_ne _ hq.symm).trans (KeyMap.find?_insert_of_ne _ hq.symm _)
  · exact (Arena.get?_push _ _ _).trans (if_neg hi)

/-- An attempt to listen on a path succeeds, or it leaves the path to whom it was. -/
theorem bindPath_cases (s : Sockets) (text : String) :
    (∃ s', s.bindPath text = (.ok s.listeners.size, s') ∧
      s.Listens s' s.listeners.size (.path text)) ∨
    ∃ cause s', s.bindPath text = (.error cause, s') ∧ s.Fails s' (.path text) := by
  cases hclaim : s.claims.find? (.ofText text) with
  | some i =>
    have held : s.holder? (.path text) ≠ none := by
      rw [holder?, Endpoint.site]
      dsimp only
      rw [hclaim]
      exact Option.some_ne_none i
    exact .inr ⟨_, _, bindPath_of_claimed hclaim, .of_held held⟩
  | none =>
    have released : ((s.claims.insert (.ofText text) s.listeners.size).erase (.ofText text)).find?
        (.ofText text) = s.claims.find? (.ofText text) := by
      rw [KeyMap.find?_erase_self, hclaim]
    by_cases stays : ∃ cause, s.entries.find? (.ofText text) = some (.fixed cause)
    · obtain ⟨cause, hfixed⟩ := stays
      refine .inr ⟨_, _, bindPath_of_fixed hclaim hfixed, ?_, released, fun clear => clear,
        .of_withdrawal fun _ _ => rfl, fun held => absurd hclaim held⟩
      exact fun h => clear_path_iff.1 h.1.2 cause hfixed
    · have clear : ∀ cause, s.entries.find? (.ofText text) ≠ some (.fixed cause) :=
        fun cause hfixed => stays ⟨cause, hfixed⟩
      cases refusal : s.refusal? s.listeners.size with
      | some cause =>
        refine .inr ⟨_, _, bindPath_of_refusal hclaim clear refusal, ?_, released, fun _ => ?_,
          .of_withdrawal fun q hq => ?_, fun held => absurd hclaim held⟩
        · rintro ⟨-, willing⟩
          cases refusal.symm.trans willing
        · refine clear_path_iff.2 fun cause hfixed => ?_
          cases (KeyMap.find?_erase_self _ _).symm.trans hfixed
        · exact (KeyMap.find?_erase_of_ne _ hq.symm).trans (KeyMap.find?_erase_of_ne _ hq.symm)
      | none =>
        refine .inl ⟨_, bindPath_of_willing hclaim clear refusal, ⟨hclaim, clear_path_iff.2 clear⟩,
          refusal, rfl, Arena.get?_push_self _ _, KeyMap.find?_insert_self _ _ _,
          .of_path (fun q hq => ?_) (fun q hq => ?_) rfl (fun i hi => ?_) rfl⟩
        · exact KeyMap.find?_insert_of_ne _ hq.symm _
        · exact (KeyMap.find?_insert_of_ne _ hq.symm _).trans (KeyMap.find?_erase_of_ne _ hq.symm)
        · exact (Arena.get?_push _ _ _).trans (if_neg hi)

/-- On an endpoint that is free somebody comes to listen if the system agrees, and after an attempt
that fails the endpoint is whose it was. -/
theorem bind_cases (s : Sockets) (e : Endpoint) :
    (∃ s', s.bind e = (.ok s.listeners.size, s') ∧ s.Listens s' s.listeners.size e) ∨
    ∃ cause s', s.bind e = (.error cause, s') ∧ s.Fails s' e := by
  cases e with
  | path text => exact s.bindPath_cases text
  | tcp address =>
    have others : ∀ l : Listener, ∀ i ≠ s.listeners.size,
        (s.listeners.push l).get? i = s.listeners.get? i := fun l i hi =>
      (Arena.get?_push _ _ _).trans (if_neg hi)
    cases hbound : s.bound.find? address with
    | some i =>
      have held : s.holder? (.tcp address) ≠ none := fun free => by
        cases hbound.symm.trans free
      refine .inr ⟨.system "address in use", s, ?_, .of_held held⟩
      simp [bind, KeyMap.contains, hbound]
    | none =>
      cases refusal : s.refusal? s.listeners.size with
      | some cause =>
        have hbind : s.bind (.tcp address) = (.error cause, { s with
            listeners := s.listeners.push ⟨.tcp address, .released⟩ }) := by
          simp [bind, KeyMap.contains, hbound, refusal]
        refine .inr ⟨cause, _, hbind, ?_, rfl, fun _ => clear_tcp _ _,
          .of_tcp (fun _ _ => rfl) rfl rfl (others _) rfl, fun held => absurd hbound held⟩
        rintro ⟨-, willing⟩
        cases refusal.symm.trans willing
      | none =>
        have hbind : s.bind (.tcp address) = (.ok s.listeners.size, { s with
            bound := s.bound.insert address s.listeners.size
            listeners := s.listeners.push ⟨.tcp address, .waiting⟩ }) := by
          simp [bind, KeyMap.contains, hbound, refusal]
        refine .inl ⟨_, hbind, ⟨hbound, s.clear_tcp _⟩, refusal, rfl, Arena.get?_push_self _ _,
          KeyMap.find?_insert_self _ _ _, .of_tcp (fun a ha => ?_) rfl rfl (others _) rfl⟩
        exact KeyMap.find?_insert_of_ne _ ha.symm _

/-- On a free endpoint somebody can listen if the system agrees. -/
theorem Free.exists_bind (free : s.Free e) (willing : s.Willing) :
    ∃ id s', s.bind e = (.ok id, s') := by
  obtain ⟨s', hbind, -⟩ | ⟨cause, s', -, fails⟩ := s.bind_cases e
  · exact ⟨_, s', hbind⟩
  · exact absurd ⟨free, willing⟩ fails.hindered

/-- Whoever is released gives its endpoint up, and nothing else changes. -/
theorem release_of_get? (get : s.listeners.get? id = some ⟨e, phase⟩) (live : phase ≠ .released) :
    s.Concerns (s.release id) id e ∧ (s.release id).holder? e = none ∧
      (s.Clear e → (s.release id).Free e) := by
  cases e with
  | path text =>
    have held : s.heldBy? id = some (.ofText text) := heldBy?_of_get? get live
    have unlinked : (s.unlink (.ofText text)).heldBy? id = some (.ofText text) :=
      heldBy?_unlink.trans held
    obtain ⟨-, hbound, -, hrefusal⟩ := s.frame_unlink (.ofText text)
    obtain ⟨-, hbound', hrefusal', -⟩ := (s.unlink (.ofText text)).frame_unclaim id
    have holder : (s.release id).claims.find? (.ofText text) = none := by
      rw [release_eq held]
      exact find?_claims_unclaim unlinked
    refine ⟨.of_path (fun q hq => ?_) (fun q hq => ?_) ?_ (fun i hi => ?_) ?_, holder,
      fun clear => ⟨holder, clear_path_iff.2 fun cause => ?_⟩⟩
    · rw [release_eq held, find?_claims_unclaim_of_ne unlinked hq, claims_unlink]
    · rw [release_eq held, entries_unclaim, find?_unlink_of_ne hq]
    · rw [release_eq held, hbound', hbound]
    · rw [release_eq held, get?_unclaim_of_ne hi, listeners_unlink]
    · rw [release_eq held, hrefusal', hrefusal]
    · rw [release_eq held, entries_unclaim, find?_unlink_self (clear_path_iff.1 clear)]
      exact (Option.some_ne_none _).symm
  | tcp address =>
    have released : s.release id =
        ({ s with bound := s.bound.erase address }).setPhase id .released := by
      simp only [release, get, if_neg live, Endpoint.site]
    have holder : (s.release id).bound.find? address = none := by
      rw [released]
      exact KeyMap.find?_erase_self _ _
    refine ⟨?_, holder, fun _ => ⟨holder, clear_tcp _ _⟩⟩
    rw [released]
    refine .of_tcp (fun a ha => ?_) rfl rfl (fun i hi => ?_) rfl
    · exact KeyMap.find?_erase_of_ne _ ha.symm
    · exact get?_setPhase_of_ne hi _

end Sockets

/-! ## Predictors -/

namespace RemotePredictor

/-- What a predictor can come to: anything may happen to it in any order, and a dispatch may be
given up. -/
inductive Reachable (key : String) (params : RemoteParams) : RemotePredictor → Prop where
  | made {p : RemotePredictor} (h : new key params = .ok p) : Reachable key params p
  | undergone {p : RemotePredictor} (h : Reachable key params p) (x : RemoteEvent) :
      Reachable key params (p.undergo x)
  | abandoned {p : RemotePredictor} (h : Reachable key params p) (d : Dispatch) (s : Sockets)
      (mem : ⟨d.round, .dispatching⟩ ∈ p.rounds) :
      Reachable key params (p.abandonDispatch d s).1

variable {key : String} {params : RemoteParams} {p p' : RemotePredictor} {samples : Buffer}
  {s s' : Sockets}

/-- After a dispatch was given up the phase is that of a training for good. -/
theorem undergo_of_stranded (training : p.readiness.phase = .training) (none : p.rounds = [])
    (x : RemoteEvent) :
    (p.undergo x).readiness.phase = .training ∧ (p.undergo x).rounds = [] := by
  cases x with
  | trainingBegins samples =>
    rw [undergo]
    split
    · next r p' hbegin => exact absurd training (beginRound_eq_ok hbegin).1
    · exact ⟨training, none⟩
  | dispatchEnds round result => simp [undergo, none, training]
  | exchangeEnds request answer =>
    cases answer with
    | error cause => exact ⟨training, none⟩
    | ok reply =>
      simp only [undergo, takeExchange, takeReply]
      split
      · exact ⟨training, none⟩
      · split
        · exact ⟨by simp [ModelReadiness.invalidate, training], none⟩
        · exact ⟨training, none⟩
  | roundEnds round arrival => simp [undergo, none, training]

theorem Reachable.inStep_or (h : p.Reachable key params) :
    p.InStep ∨ p.readiness.phase = .training ∧ p.rounds = [] := by
  induction h with
  | made h =>
    obtain rfl := untrained_of_new h
    exact .inl (inStep_untrained key params)
  | undergone h x ih =>
    obtain step | ⟨training, none⟩ := ih
    · exact .inl (step.undergo x)
    · exact .inr (undergo_of_stranded training none x)
  | abandoned h d s mem ih =>
    obtain step | ⟨-, none⟩ := ih
    · refine .inr ⟨?_, step.of_dropRound mem⟩
      exact step.phase_eq_training_iff.2 (by rw [step.rounds_eq_singleton mem]; rfl)
    · rw [none] at mem
      cases mem

/-- Outside of a training no round is in flight, and to end one would change nothing. -/
theorem Reachable.of_resting (h : p.Reachable key params)
    (resting : p.readiness.phase ≠ .training) :
    p.rounds = [] ∧ p.readiness.abort = p.readiness := by
  obtain step | ⟨training, -⟩ := h.inStep_or
  · refine ⟨step.rounds_eq_nil resting, ?_⟩
    rw [ModelReadiness.abort, ← step.phase_eq_restingPhase resting]
  · exact absurd training resting

/-- The predictor with a round that begins. -/
def begun (p : RemotePredictor) : RemotePredictor :=
  { p with
    readiness := { p.readiness with phase := .training }
    rounds := p.rounds ++ [⟨p.nextRound, .dispatching⟩]
    nextRound := p.nextRound + 1 }

/-- A round that is begun and rolled back leaves nothing but the number of the next one. -/
theorem Reachable.rollBack_eq (h : p.Reachable key params)
    (resting : p.readiness.phase ≠ .training) :
    p.begun.rollBack p.nextRound = { p with nextRound := p.nextRound + 1 } := by
  obtain ⟨none, abort⟩ := h.of_resting resting
  have readiness : (⟨p.readiness.ready, .training⟩ : ModelReadiness).abort = p.readiness := abort
  simp [rollBack, dropRound, readiness, begun, none]

/-- A round that may begin waits for its report, or it is rolled back. -/
theorem beginDispatch_of_resting (enough : p.params.trainSize.toNat ≤ samples.size)
    (resting : p.readiness.phase ≠ .training) (s : Sockets) :
    ∃ request, p.beginDispatch samples s = match s.bind p.completion with
      | (.error cause, s') => (.error (.transport cause), p.begun.rollBack p.nextRound, s')
      | (.ok listener, s') => (.ok ⟨p.nextRound, listener, request⟩, p.begun, s') := by
  obtain ⟨values, hvalues, -⟩ := Buffer.exists_values? enough
  simp only [beginDispatch, beginRound, if_neg (Nat.not_lt.2 enough), hvalues,
    ModelReadiness.begin?, if_neg resting]
  exact ⟨_, rfl⟩

/-- What it comes to, to begin a round and to listen for its report. -/
inductive Begins (p : RemotePredictor) (samples : Buffer) (s : Sockets) :
    Except PredictError Dispatch × RemotePredictor × Sockets → Prop where
  | tooFew (few : samples.size < p.params.trainSize.toNat) : Begins p samples s
      (.error (.insufficientData samples.size p.params.trainSize.toNat), p, s)
  | busy (training : p.readiness.phase = .training) :
      Begins p samples s (.error .trainingInProgress, p, s)
  | unbound {cause : TransportFault} {s' : Sockets} (resting : p.readiness.phase ≠ .training)
      (fails : s.Fails s' p.completion) :
      Begins p samples s (.error (.transport cause), p.begun.rollBack p.nextRound, s')
  | begun {listener : Nat} {request : TrainRequest} {s' : Sockets}
      (resting : p.readiness.phase ≠ .training) (listens : s.Listens s' listener p.completion) :
      Begins p samples s (.ok ⟨p.nextRound, listener, request⟩, p.begun, s')

theorem begins_beginDispatch (p : RemotePredictor) (samples : Buffer) (s : Sockets) :
    p.Begins samples s (p.beginDispatch samples s) := by
  by_cases few : samples.size < p.params.trainSize.toNat
  · have hbegin : p.beginDispatch samples s =
        (.error (.insufficientData samples.size p.params.trainSize.toNat), p, s) := by
      simp only [beginDispatch, beginRound, if_pos few]
    rw [hbegin]
    exact .tooFew few
  · have enough := Nat.not_lt.1 few
    by_cases training : p.readiness.phase = .training
    · obtain ⟨values, hvalues, -⟩ := Buffer.exists_values? enough
      have hbegin : p.beginDispatch samples s = (.error .trainingInProgress, p, s) := by
        simp only [beginDispatch, beginRound, if_neg few, hvalues, ModelReadiness.begin?,
          if_pos training]
      rw [hbegin]
      exact .busy training
    · obtain ⟨request, hbegin⟩ := p.beginDispatch_of_resting enough training s
      rw [hbegin]
      rcases s.bind_cases p.completion with ⟨s', hbind, listens⟩ | ⟨cause, s', hbind, fails⟩
      · rw [hbind]
        exact .begun training listens
      · rw [hbind]
        exact .unbound training fails

/-- Where a round may begin, its endpoint is free and the system agrees, it begins. -/
theorem exists_beginDispatch (enough : p.params.trainSize.toNat ≤ samples.size)
    (resting : p.readiness.phase ≠ .training) (free : s.Free p.completion)
    (willing : s.Willing) :
    ∃ d s', p.beginDispatch samples s = (.ok d, p.begun, s') ∧ d.round = p.nextRound := by
  obtain ⟨request, hbegin⟩ := p.beginDispatch_of_resting enough resting s
  obtain ⟨listener, s', hbind⟩ := free.exists_bind willing
  rw [hbind] at hbegin
  exact ⟨_, s', hbegin, rfl⟩

end RemotePredictor

end PredictiveScaling
