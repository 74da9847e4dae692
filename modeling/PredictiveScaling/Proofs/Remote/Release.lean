import PredictiveScaling.Controller.Training
import PredictiveScaling.Remote.Exchange

/-!
# Attempts to listen, and ends

An attempt that fails is released, and so is a listener in whatever way it ends
(`Sockets.Ends.eq_release`). To release is to remove the socket and then to give up the claim
(`Sockets.release_eq`).
-/
namespace PredictiveScaling

namespace Sockets

variable {s s' : Sockets} {id i : Nat} {text : String} {path q : SocketPath}

/-- The path that a listener was made for, also when it has been released. -/
def pathOf? (s : Sockets) (id : Nat) : Option SocketPath :=
  match s.listeners.get? id with
  | some ⟨.path text, _⟩ => some (.ofText text)
  | _ => none

/-- The path that a listener holds from its claim on until it is released. -/
def heldBy? (s : Sockets) (id : Nat) : Option SocketPath :=
  match s.listeners.get? id with
  | some ⟨.path text, phase⟩ => if phase = .released then none else some (.ofText text)
  | _ => none

theorem heldBy?_eq_some_iff : s.heldBy? id = some path ↔
    ∃ text phase, s.listeners.get? id = some ⟨.path text, phase⟩ ∧ phase ≠ .released ∧
      .ofText text = path := by
  rw [heldBy?]
  split
  · next text phase hget =>
    by_cases hphase : phase = .released
    · simp [hget, hphase]
    · simp only [if_neg hphase, hget, Option.some.injEq, Listener.mk.injEq, Endpoint.path.injEq]
      constructor
      · rintro rfl
        exact ⟨text, phase, ⟨rfl, rfl⟩, hphase, rfl⟩
      · rintro ⟨_, _, ⟨rfl, -⟩, -, same⟩
        exact same
  · next hother =>
    constructor
    · intro hnone
      cases hnone
    · rintro ⟨text, phase, hget, -⟩
      exact (hother _ _ hget).elim

theorem heldBy?_of_get? {phase : ListenerPhase}
    (h : s.listeners.get? id = some ⟨.path text, phase⟩) (live : phase ≠ .released) :
    s.heldBy? id = some (.ofText text) :=
  heldBy?_eq_some_iff.2 ⟨text, phase, h, live, rfl⟩

/-- Of a listener that is yet to come nothing is known. -/
theorem pathOf?_size (s : Sockets) : s.pathOf? s.listeners.size = none := by
  rw [pathOf?, (s.listeners.get?_eq_none_iff _).2 (Nat.le_refl _)]

theorem heldBy?_size (s : Sockets) : s.heldBy? s.listeners.size = none := by
  rw [heldBy?, (s.listeners.get?_eq_none_iff _).2 (Nat.le_refl _)]

theorem listenerAt?_eq_some_iff :
    s.listenerAt? (.path path) = some id ↔ s.entries.find? path = some (.socket id) := by
  rw [listenerAt?]
  split
  · next hfind => simp [hfind]
  · next hother =>
    constructor
    · intro hnone
      cases hnone
    · intro hfind
      exact (hother _ hfind).elim

theorem listenerAt?_congr (h : s'.entries.find? path = s.entries.find? path) :
    s'.listenerAt? (.path path) = s.listenerAt? (.path path) := by
  simp only [listenerAt?, h]

/-! ## Removals -/

theorem unlink_of_ne_fixed (h : ∀ cause, s.entries.find? path ≠ some (.fixed cause)) :
    s.unlink path = { s with entries := s.entries.erase path } := by
  rw [unlink]
  split
  · next hfixed => exact absurd hfixed (h _)
  · rfl

theorem unlink_cases (s : Sockets) (path : SocketPath) :
    (∃ cause, s.entries.find? path = some (.fixed cause) ∧ s.unlink path = s) ∨
      s.unlink path = { s with entries := s.entries.erase path } := by
  rw [unlink]
  split
  · next cause hfixed => exact .inl ⟨cause, hfixed, rfl⟩
  · exact .inr rfl

theorem listenerAt?_unlink_self : (s.unlink path).listenerAt? (.path path) = none := by
  rcases s.unlink_cases path with ⟨cause, hfixed, same⟩ | same
  · simp [same, listenerAt?, hfixed]
  · simp [same, listenerAt?]

theorem find?_unlink_of_ne (h : q ≠ path) :
    (s.unlink path).entries.find? q = s.entries.find? q := by
  rcases s.unlink_cases path with ⟨-, -, same⟩ | same
  · rw [same]
  · rw [same]
    exact KeyMap.find?_erase_of_ne _ h.symm

/-- What a removal does not change. -/
theorem frame_unlink (s : Sockets) (path : SocketPath) :
    (s.unlink path).claims = s.claims ∧ (s.unlink path).bound = s.bound ∧
      (s.unlink path).listeners = s.listeners ∧ (s.unlink path).refusal? = s.refusal? := by
  rcases s.unlink_cases path with ⟨-, -, same⟩ | same <;> rw [same] <;> exact ⟨rfl, rfl, rfl, rfl⟩

@[simp] theorem claims_unlink : (s.unlink path).claims = s.claims := (s.frame_unlink path).1

@[simp] theorem listeners_unlink : (s.unlink path).listeners = s.listeners :=
  (s.frame_unlink path).2.2.1

theorem find?_unlink_self (h : ∀ cause, s.entries.find? path ≠ some (.fixed cause)) :
    (s.unlink path).entries.find? path = none := by
  rw [unlink_of_ne_fixed h]
  exact KeyMap.find?_erase_self _ _

@[simp] theorem heldBy?_unlink : (s.unlink path).heldBy? id = s.heldBy? id := by
  simp only [heldBy?, listeners_unlink]

/-! ## Claims -/

/-- Give up the claim of a listener whose socket is removed. -/
def unclaim (s : Sockets) (id : Nat) : Sockets :=
  match s.heldBy? id with
  | some path => ({ s with claims := s.claims.erase path }).setPhase id .released
  | none => s

/-- What giving up a claim does not change. -/
theorem frame_unclaim (s : Sockets) (id : Nat) :
    (s.unclaim id).entries = s.entries ∧ (s.unclaim id).bound = s.bound ∧
      (s.unclaim id).refusal? = s.refusal? ∧
      (s.unclaim id).listeners.size = s.listeners.size := by
  rw [unclaim]
  split
  · exact ⟨rfl, rfl, rfl, Arena.size_modify _ _ _⟩
  · exact ⟨rfl, rfl, rfl, rfl⟩

@[simp] theorem entries_unclaim : (s.unclaim id).entries = s.entries := (s.frame_unclaim id).1

theorem find?_claims_unclaim (h : s.heldBy? id = some path) :
    (s.unclaim id).claims.find? path = none := by
  rw [unclaim, h]
  exact KeyMap.find?_erase_self _ _

theorem find?_claims_unclaim_of_ne (h : s.heldBy? id = some path) (hq : q ≠ path) :
    (s.unclaim id).claims.find? q = s.claims.find? q := by
  rw [unclaim, h]
  exact KeyMap.find?_erase_of_ne _ hq.symm

theorem listenerAt?_unclaim :
    (s.unclaim id).listenerAt? (.path path) = s.listenerAt? (.path path) :=
  listenerAt?_congr (by rw [entries_unclaim])

theorem get?_unclaim (h : s.heldBy? id = some path) :
    ∃ text, (s.unclaim id).listeners.get? id = some ⟨.path text, .released⟩ ∧
      .ofText text = path := by
  obtain ⟨text, phase, hget, -, same⟩ := heldBy?_eq_some_iff.1 h
  exact ⟨text, by simp [unclaim, h, setPhase, hget], same⟩

theorem get?_unclaim_of_ne (h : i ≠ id) :
    (s.unclaim id).listeners.get? i = s.listeners.get? i := by
  rw [unclaim]
  split
  · exact Arena.get?_modify_of_ne _ h.symm _
  · rfl

@[simp] theorem claims_setPhase (phase : ListenerPhase) :
    (s.setPhase id phase).claims = s.claims := rfl

theorem get?_setPhase {e : Endpoint} {before : ListenerPhase}
    (h : s.listeners.get? id = some ⟨e, before⟩) (phase : ListenerPhase) :
    (s.setPhase id phase).listeners.get? id = some ⟨e, phase⟩ := by
  simp [setPhase, h]

theorem get?_setPhase_of_ne (h : i ≠ id) (phase : ListenerPhase) :
    (s.setPhase id phase).listeners.get? i = s.listeners.get? i :=
  Arena.get?_modify_of_ne _ h.symm _

/-- A path comes to hold something, or nothing. -/
def place (s : Sockets) (path : SocketPath) : Option PathEntry → Sockets
  | some entry => { s with entries := s.entries.insert path entry }
  | none => { s with entries := s.entries.erase path }

theorem find?_place_of_ne (content? : Option PathEntry) (h : q ≠ path) :
    (s.place path content?).entries.find? q = s.entries.find? q := by
  cases content? with
  | none => exact KeyMap.find?_erase_of_ne _ h.symm
  | some entry => exact KeyMap.find?_insert_of_ne _ h.symm _

theorem listenerAt?_place_socket :
    (s.place path (some (.socket id))).listenerAt? (.path path) = some id :=
  listenerAt?_eq_some_iff.2 (KeyMap.find?_insert_self _ _ _)

theorem listenerAt?_place_of_ne_socket {content? : Option PathEntry}
    (h : ∀ id, content? ≠ some (.socket id)) :
    (s.place path content?).listenerAt? (.path path) = none := by
  rw [Option.eq_none_iff_forall_ne_some]
  intro id there
  rw [listenerAt?_eq_some_iff] at there
  cases content? with
  | none => cases (KeyMap.find?_erase_self _ _).symm.trans there
  | some entry =>
    obtain rfl := Option.some.inj ((KeyMap.find?_insert_self _ _ _).symm.trans there)
    exact h id rfl

@[simp] theorem claims_place (content? : Option PathEntry) :
    (s.place path content?).claims = s.claims := by
  cases content? <;> rfl

@[simp] theorem listeners_place (content? : Option PathEntry) :
    (s.place path content?).listeners = s.listeners := by
  cases content? <;> rfl

/-! ## Attempts as wholes -/

/-- The system would let the next listener listen. -/
def Willing (s : Sockets) : Prop := s.refusal? s.listeners.size = none

theorem bindPath_of_claimed (h : s.claims.find? (.ofText text) = some i) :
    s.bindPath text = (.error (.awaitingReport text), s) := by
  simp [bindPath, claim, KeyMap.contains, h]

theorem claim_ok (h : s.claim text = .ok (id, s')) :
    id = s.listeners.size ∧ s'.listeners.get? id = some ⟨.path text, .claimed⟩ := by
  rw [claim] at h
  split at h
  · cases h
  · cases h
    exact ⟨rfl, Arena.get?_push_self _ _⟩

/-- An attempt that cannot clear its path is released. -/
theorem clear_error {e : TransportFault} (h : s.clear id = (.error e, s')) :
    s' = s.release id ∧ ∃ path, s.heldBy? id = some path := by
  rw [clear] at h
  split at h
  · next text hget =>
    split at h
    · cases h
      exact ⟨rfl, _, heldBy?_of_get? hget (by decide)⟩
    · cases h
  · cases h

/-- And so is one that cannot listen there. -/
theorem listen_error {e : TransportFault} (h : s.listen id = (.error e, s')) :
    s' = s.release id ∧ ∃ path, s.heldBy? id = some path := by
  rw [listen] at h
  split at h
  · next text hget =>
    have held := heldBy?_of_get? hget (by decide)
    split at h
    · cases h
      exact ⟨rfl, _, held⟩
    · split at h
      · cases h
        exact ⟨rfl, _, held⟩
      · cases h
  · cases h

/-- Where something stands that cannot be removed, an attempt leaves no more than a listener that is
released. -/
theorem bindPath_of_fixed {cause : TransportFault}
    (free : s.claims.find? (.ofText text) = none)
    (h : s.entries.find? (.ofText text) = some (.fixed cause)) :
    s.bindPath text = (.error cause, { s with
      claims := (s.claims.insert (.ofText text) s.listeners.size).erase (.ofText text)
      listeners := s.listeners.push ⟨.path text, .released⟩ }) := by
  simp [bindPath, claim, KeyMap.contains, free, clear, h, release, Endpoint.site, unlink, setPhase,
    Arena.modify_push_self]

/-- An attempt that has claimed and cleared its path. -/
def cleared (s : Sockets) (text : String) : Sockets :=
  { s with
    claims := s.claims.insert (.ofText text) s.listeners.size
    entries := s.entries.erase (.ofText text)
    listeners := s.listeners.push ⟨.path text, .cleared⟩ }

theorem bindPath_eq_listen (free : s.claims.find? (.ofText text) = none)
    (h : ∀ cause, s.entries.find? (.ofText text) ≠ some (.fixed cause)) :
    s.bindPath text = match (s.cleared text).listen s.listeners.size with
      | (.error cause, s') => (.error cause, s')
      | (.ok (), s') => (.ok s.listeners.size, s') := by
  let claimed : Sockets := { s with
    claims := s.claims.insert (.ofText text) s.listeners.size
    listeners := s.listeners.push ⟨.path text, .claimed⟩ }
  have hclaim : s.claim text = .ok (s.listeners.size, claimed) := by
    simp [claim, KeyMap.contains, free, claimed]
  have hclear : claimed.clear s.listeners.size = (.ok (), s.cleared text) := by
    have hget : claimed.listeners.get? s.listeners.size = some ⟨.path text, .claimed⟩ :=
      Arena.get?_push_self _ _
    rw [clear, hget]
    dsimp only
    split
    · next hfixed => exact absurd hfixed (h _)
    · have hunlink : claimed.unlink (.ofText text) = _ := unlink_of_ne_fixed h
      rw [hunlink, setPhase]
      simp only [claimed, Arena.modify_push_self, cleared]
  rw [bindPath, hclaim]
  rcases hlisten : (s.cleared text).listen s.listeners.size with ⟨_ | _, t⟩
  · simp only [hclear, hlisten]
  · simp only [hclear, hlisten]

/-- An attempt that is not let to listen leaves the path to nobody, and empty. -/
theorem bindPath_of_refusal {cause : TransportFault}
    (free : s.claims.find? (.ofText text) = none)
    (h : ∀ cause, s.entries.find? (.ofText text) ≠ some (.fixed cause))
    (refusal : s.refusal? s.listeners.size = some cause) :
    s.bindPath text = (.error cause, { s with
      claims := (s.claims.insert (.ofText text) s.listeners.size).erase (.ofText text)
      entries := (s.entries.erase (.ofText text)).erase (.ofText text)
      listeners := s.listeners.push ⟨.path text, .released⟩ }) := by
  rw [bindPath_eq_listen free h]
  simp [cleared, listen, KeyMap.contains, refusal, release, Endpoint.site, unlink, setPhase,
    Arena.modify_push_self]

/-- Where nobody claims a path, nothing has to stay and the system agrees, an attempt succeeds. -/
theorem bindPath_of_willing (free : s.claims.find? (.ofText text) = none)
    (h : ∀ cause, s.entries.find? (.ofText text) ≠ some (.fixed cause)) (willing : s.Willing) :
    s.bindPath text = (.ok s.listeners.size, { s with
      claims := s.claims.insert (.ofText text) s.listeners.size
      entries := (s.entries.erase (.ofText text)).insert (.ofText text)
        (.socket s.listeners.size)
      listeners := s.listeners.push ⟨.path text, .waiting⟩ }) := by
  have agrees : s.refusal? s.listeners.size = none := willing
  rw [bindPath_eq_listen free h]
  simp [cleared, listen, KeyMap.contains, agrees, setPhase, Arena.modify_push_self]

/-- To release a listener is to remove its socket and to give up its claim. -/
theorem release_eq (h : s.heldBy? id = some path) : s.release id = (s.unlink path).unclaim id := by
  obtain ⟨text, phase, hget, hphase, rfl⟩ := heldBy?_eq_some_iff.1 h
  simp only [release, hget, if_neg hphase, Endpoint.site, unclaim, heldBy?_unlink, h]

/-- All the ways in which a listener, or an attempt to get one, comes to its end. -/
inductive Ends (s : Sockets) (id : Nat) : Sockets → Prop where
  /-- The request whose report it waits for was not sent. -/
  | unsent (p : RemotePredictor) (d : Dispatch) (cause : PredictError) (own : d.listener = id) :
      Ends s id (p.endDispatch d s (.error cause)).2
  /-- Whoever has wanted to send the request is gone. -/
  | abandoned (p : RemotePredictor) (d : Dispatch) (own : d.listener = id) :
      Ends s id (p.abandonDispatch d s).2
  /-- Somebody connects, whatever is read then. -/
  | accepted {e : Endpoint} {bytes : List UInt8} {result : Except TransportFault TrainReport}
      {s' : Sockets} (own : s.listener? e = some id)
      (delivered : s.deliver? e bytes = some (result, s')) : Ends s id s'
  /-- A round ends, with its report or when the time is up. -/
  | ended (c : Controller) {predictor round : Nat} {arrival : Arrival} {a : AwaitedRound}
      {key : String} {collector : Nat} {r : RemotePredictor} (own : a.listener = id)
      (sockets : c.sockets = s)
      (awaited : (c.awaited.find? fun a => a.predictor = predictor ∧ a.round = round) = some a)
      (served : c.predictors.get? predictor = some ⟨key, collector, .remote r⟩) :
      Ends s id (c.endTraining predictor round arrival).sockets
  /-- Nobody has a use for it. -/
  | dropped : Ends s id (s.release id)

end Sockets

end PredictiveScaling
