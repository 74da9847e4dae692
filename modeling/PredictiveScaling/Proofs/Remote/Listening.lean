import PredictiveScaling.Proofs.Remote.Release

/-!
# One listener for each path

Who wants to listen on a path claims it, has removed what stands there and listens; who ends removes
the socket and gives the claim up. These are five steps, each of any number of listeners, and they
come in any order that leaves those of one listener in theirs. An attempt that fails, or that is
given up, ends by the same two steps as a listener.

The removal before an attempt listens is carried out on another thread, for which the attempt waits.
If the attempt is given up meanwhile, the removal is carried out all the same, at any later time,
and may then meet the socket of the next listener. A path that is reached by other names, over a
link or over a parent directory, is another path here; what happens to a path in this way, or by
another process, may happen at any time.

A step changes no more than what one path holds, or than one listener and its path
(`Listening.Effect`). So claims tell who holds a path, and sockets who waits there, whatever happens
(`Listening.Sound.step`).
-/
namespace PredictiveScaling

/-! ## Steps of many listeners -/

/-- The sockets of a process, between any two steps of those who use them. -/
structure Listening where
  sockets : Sockets
  /-- The listeners that have removed their socket and not yet given up their claim. -/
  ending : List Nat
  /-- Those whose attempt has asked for a removal that is not yet carried out. -/
  removing : List Nat

/-- A step of somebody who wants to listen on a path, who listens there, or who ends. -/
inductive SocketEvent where
  /-- An attempt begins, and asks for the removal of what stands on its path. -/
  | claims (text : String)
  /-- The removal that an attempt has asked for is carried out. -/
  | clears (id : Nat)
  /-- An attempt gets to listen. -/
  | listens (id : Nat)
  /-- An attempt or a listener removes what stands on its path because it ends. -/
  | unlinks (id : Nat)
  /-- It gives up its claim. -/
  | unclaims (id : Nat)
  /-- What a path holds is changed from elsewhere. No listener's socket comes there that way. -/
  | elsewhere (path : SocketPath) (content? : Option PathEntry)

namespace Listening

/-- Before anybody has listened, and whatever the system will answer to those who want to. -/
def start (entries : KeyMap SocketPath PathEntry) (refusal? : Nat → Option TransportFault) :
    Listening :=
  ⟨{ Sockets.empty with entries, refusal? }, [], []⟩

/-- An attempt that has ended or is about to, and so has a listener. -/
def GivenUp (l : Listening) (id : Nat) : Prop := l.sockets.heldBy? id = none ∨ id ∈ l.ending

instance (l : Listening) (id : Nat) : Decidable (l.GivenUp id) :=
  inferInstanceAs (Decidable (_ ∨ _))

/-- Go on with an attempt that has not been given up. If that fails the attempt has to end. -/
def proceed (l : Listening) (id : Nat) (result : Except TransportFault Unit × Sockets) :
    Listening :=
  match result with
  | (.ok (), sockets) => if id ∈ l.ending then l else { l with sockets }
  | (.error _, _) => l

/-- The removal that somebody has asked for is no longer outstanding. -/
def carriedOut (l : Listening) (id : Nat) : Listening :=
  { l with removing := l.removing.filter (· ≠ id) }

/-- A removal whose attempt was given up is carried out. -/
def removeLate (l : Listening) (id : Nat) : Listening :=
  match l.sockets.pathOf? id with
  | some path => { l with sockets := l.sockets.unlink path }
  | none => l

/-- What a step does. One that is not due does nothing. -/
def undergo (l : Listening) : SocketEvent → Listening
  | .claims text =>
    match l.sockets.claim text with
    | .ok (id, sockets) => { l with sockets, removing := id :: l.removing }
    | .error _ => l
  | .clears id =>
    if id ∈ l.removing then
      if l.GivenUp id then (l.carriedOut id).removeLate id
      else (l.carriedOut id).proceed id (l.sockets.clear id)
    else l
  | .listens id => l.proceed id (l.sockets.listen id)
  | .unlinks id =>
    match l.sockets.heldBy? id with
    | some path =>
      if id ∈ l.ending then l
      else { l with sockets := l.sockets.unlink path, ending := id :: l.ending }
    | none => l
  | .unclaims id =>
    if id ∈ l.ending then
      { l with sockets := l.sockets.unclaim id, ending := l.ending.filter (· ≠ id) }
    else l
  | .elsewhere path content? =>
    match content? with
    | some (.socket _) => l
    | _ => { l with sockets := l.sockets.place path content? }

/-- Many steps, of whomever. -/
def run (l : Listening) (xs : List SocketEvent) : Listening := xs.foldl undergo l

/-- The listener waits on the path for somebody to connect. -/
def Waits (l : Listening) (id : Nat) (path : SocketPath) : Prop :=
  ∃ text, .ofText text = path ∧ l.sockets.listeners.get? id = some ⟨.path text, .waiting⟩ ∧
    id ∉ l.ending

/-- The removals that are outstanding on the path are those of attempts that go on. -/
def Settled (l : Listening) (path : SocketPath) : Prop :=
  ∀ id ∈ l.removing, l.sockets.pathOf? id = some path → ¬ l.GivenUp id

variable {l l' : Listening} {x : SocketEvent} {id i : Nat} {text : String} {path q : SocketPath}
  {phase : ListenerPhase}

theorem Waits.heldBy? (h : l.Waits id path) : l.sockets.heldBy? id = some path := by
  obtain ⟨text, rfl, hget, -⟩ := h
  exact Sockets.heldBy?_of_get? hget (by decide)

theorem Waits.notMem (h : l.Waits id path) : id ∉ l.ending := by
  obtain ⟨_, _, _, goesOn⟩ := h
  exact goesOn

theorem not_waits_of_get? (h : l.sockets.listeners.get? id = some ⟨.path text, phase⟩)
    (other : phase ≠ .waiting) (path : SocketPath) : ¬ l.Waits id path := by
  rintro ⟨_, -, hget, -⟩
  rw [h] at hget
  cases hget
  exact other rfl

theorem not_givenUp_of_get? (h : l.sockets.listeners.get? id = some ⟨.path text, phase⟩)
    (live : phase ≠ .released) (goesOn : id ∉ l.ending) : ¬ l.GivenUp id := by
  rintro (none | ends)
  · cases (Sockets.heldBy?_of_get? h live).symm.trans none
  · exact goesOn ends

@[simp] theorem sockets_carriedOut : (l.carriedOut id).sockets = l.sockets := rfl

@[simp] theorem ending_carriedOut : (l.carriedOut id).ending = l.ending := rfl

theorem mem_of_mem_removing_carriedOut (h : i ∈ (l.carriedOut id).removing) : i ∈ l.removing :=
  (List.mem_filter.1 h).1

/-! ## One step -/

/-- With a new listener that has claimed its path, and asked for a removal. -/
def withClaim (l : Listening) (text : String) : Listening :=
  { l with
    sockets := { l.sockets with
      claims := l.sockets.claims.insert (.ofText text) l.sockets.listeners.size
      listeners := l.sockets.listeners.push ⟨.path text, .claimed⟩ }
    removing := l.sockets.listeners.size :: l.removing }

/-- With a listener that has removed its socket and is about to give up its claim. -/
def withEnding (l : Listening) (id : Nat) (path : SocketPath) : Listening :=
  { l with sockets := l.sockets.unlink path, ending := id :: l.ending }

/-- With a listener that has given up its claim. -/
def withoutClaim (l : Listening) (id : Nat) : Listening :=
  { l with sockets := l.sockets.unclaim id, ending := l.ending.filter (· ≠ id) }

/-- What a step comes to. -/
inductive Step (l : Listening) : SocketEvent → Listening → Prop where
  /-- It was not due, or it has failed. -/
  | idle (x : SocketEvent) : Step l x l
  | claimed {text : String} (free : l.sockets.claims.find? (.ofText text) = none) :
      Step l (.claims text) (l.withClaim text)
  | cleared {id : Nat} {text : String}
      (get : l.sockets.listeners.get? id = some ⟨.path text, .claimed⟩) :
      Step l (.clears id) { l.carriedOut id with
        sockets := (l.sockets.unlink (.ofText text)).setPhase id .cleared }
  /-- The system does not remove what stands there. -/
  | uncleared (id : Nat) : Step l (.clears id) (l.carriedOut id)
  /-- The removal was asked for by an attempt that was given up meanwhile. -/
  | removed {id : Nat} {path : SocketPath} (asked : id ∈ l.removing)
      (made : l.sockets.pathOf? id = some path) (givenUp : l.GivenUp id) :
      Step l (.clears id) { l.carriedOut id with sockets := l.sockets.unlink path }
  | listened {id : Nat} {text : String} (goesOn : id ∉ l.ending)
      (get : l.sockets.listeners.get? id = some ⟨.path text, .cleared⟩) :
      Step l (.listens id) { l with
        sockets := (l.sockets.place (.ofText text) (some (.socket id))).setPhase id .waiting }
  | unlinked {id : Nat} {path : SocketPath} (held : l.sockets.heldBy? id = some path) :
      Step l (.unlinks id) (l.withEnding id path)
  | unclaimed {id : Nat} (ends : id ∈ l.ending) :
      Step l (.unclaims id) (l.withoutClaim id)
  | changed {path : SocketPath} {content? : Option PathEntry}
      (noSocket : ∀ id, content? ≠ some (.socket id)) :
      Step l (.elsewhere path content?) { l with sockets := l.sockets.place path content? }

theorem step_undergo (l : Listening) (x : SocketEvent) : l.Step x (l.undergo x) := by
  cases x with
  | claims text =>
    by_cases hclaimed : l.sockets.claims.contains (.ofText text) = true
    · simp only [undergo, Sockets.claim, if_pos hclaimed]
      exact .idle _
    · simp only [undergo, Sockets.claim, if_neg hclaimed]
      exact .claimed (by simpa [KeyMap.contains] using hclaimed)
  | clears id =>
    rw [undergo]
    split
    · next asked =>
      split
      · next givenUp =>
        rw [removeLate, sockets_carriedOut]
        split
        · next path made => exact .removed asked made givenUp
        · exact .uncleared id
      · next goesOn =>
        have running : id ∉ (l.carriedOut id).ending := fun ends => goesOn (.inr ends)
        rw [Sockets.clear]
        split
        · next text hget =>
          split
          · exact .uncleared id
          · rw [proceed, if_neg running]
            exact .cleared hget
        · rw [proceed, if_neg running]
          exact .uncleared id
    · exact .idle _
  | listens id =>
    rw [undergo, Sockets.listen]
    split
    · next text hget =>
      split
      · exact .idle _
      · split
        · exact .idle _
        · rw [proceed]
          split
          · exact .idle _
          · next goesOn => exact .listened goesOn hget
    · rw [proceed, ite_self]
      exact .idle _
  | unlinks id =>
    rw [undergo]
    split
    · next path held =>
      split
      · exact .idle _
      · exact .unlinked held
    · exact .idle _
  | unclaims id =>
    rw [undergo]
    split
    · next ends => exact .unclaimed ends
    · exact .idle _
  | elsewhere path content? =>
    rw [undergo.eq_def]
    dsimp only
    split
    · exact .idle _
    · next noSocket => exact .changed noSocket

/-! ## Invariants -/

/-- Claims tell who holds a path, and whose sockets there are. -/
structure Sound (l : Listening) : Prop where
  claims_iff : ∀ path id, l.sockets.claims.find? path = some id ↔ l.sockets.heldBy? id = some path
  waits : ∀ path id, l.sockets.listenerAt? (.path path) = some id → l.Waits id path
  holds : ∀ id ∈ l.ending, ∃ path, l.sockets.heldBy? id = some path
  made : ∀ id ∈ l.removing, ∃ path, l.sockets.pathOf? id = some path

/-- A path has one holder, and a holder has one path. -/
theorem Sound.eq_of_holds (h : l.Sound) (hi : l.sockets.heldBy? i = some path)
    (hid : l.sockets.heldBy? id = some path) : i = id := by
  have hclaim := (h.claims_iff path i).2 hi
  rw [(h.claims_iff path id).2 hid] at hclaim
  exact (Option.some.inj hclaim).symm

theorem Sound.notMem_ending (h : l.Sound) : l.sockets.listeners.size ∉ l.ending := by
  intro ends
  obtain ⟨_, held⟩ := h.holds _ ends
  cases (Sockets.heldBy?_size _).symm.trans held

theorem Sound.notMem_removing (h : l.Sound) : l.sockets.listeners.size ∉ l.removing := by
  intro asked
  obtain ⟨_, made⟩ := h.made _ asked
  cases (Sockets.pathOf?_size _).symm.trans made

/-- What changes at most where a step has to do with what one path holds only. -/
structure Files (l l' : Listening) (path : SocketPath) : Prop where
  claims : l'.sockets.claims = l.sockets.claims
  listeners : l'.sockets.listeners = l.sockets.listeners
  ending : l'.ending = l.ending
  removing : ∀ j ∈ l'.removing, j ∈ l.removing
  entries : ∀ q ≠ path, l'.sockets.entries.find? q = l.sockets.entries.find? q

/-- What changes at most where one listener comes to another phase. -/
structure Moves (l l' : Listening) (id : Nat) (text : String) (phase : ListenerPhase) : Prop where
  claims : ∀ q ≠ .ofText text, l'.sockets.claims.find? q = l.sockets.claims.find? q
  entries : ∀ q ≠ .ofText text, l'.sockets.entries.find? q = l.sockets.entries.find? q
  listeners : ∀ j ≠ id, l'.sockets.listeners.get? j = l.sockets.listeners.get? j
  ending : ∀ j ≠ id, j ∈ l'.ending ↔ j ∈ l.ending
  removing : ∀ j ≠ id, j ∈ l'.removing → j ∈ l.removing
  get? : l'.sockets.listeners.get? id = some ⟨.path text, phase⟩
  claim : l'.sockets.claims.find? (.ofText text) = if phase ≠ .released then some id else none
  socket : l'.sockets.listenerAt? (.path (.ofText text)) =
    if phase = .waiting ∧ id ∉ l'.ending then some id else none
  live : id ∈ l'.ending → phase ≠ .released

namespace Files

variable (f : l.Files l' path)
include f

theorem heldBy? (j : Nat) : l'.sockets.heldBy? j = l.sockets.heldBy? j := by
  simp only [Sockets.heldBy?, f.listeners]

theorem pathOf? (j : Nat) : l'.sockets.pathOf? j = l.sockets.pathOf? j := by
  simp only [Sockets.pathOf?, f.listeners]

theorem waits_iff : l'.Waits i q ↔ l.Waits i q := by
  simp only [Waits, f.listeners, f.ending]

theorem settled (h : l.Settled q) : l'.Settled q := by
  intro j asked made
  rw [GivenUp, f.heldBy?, f.ending]
  exact h j (f.removing j asked) ((f.pathOf? j).symm.trans made)

end Files

namespace Moves

variable (m : l.Moves l' id text phase)
include m

theorem heldBy?_of_ne {j : Nat} (hj : j ≠ id) : l'.sockets.heldBy? j = l.sockets.heldBy? j := by
  simp only [Sockets.heldBy?, m.listeners j hj]

theorem pathOf?_of_ne {j : Nat} (hj : j ≠ id) : l'.sockets.pathOf? j = l.sockets.pathOf? j := by
  simp only [Sockets.pathOf?, m.listeners j hj]

theorem heldBy?_self :
    l'.sockets.heldBy? id = if phase ≠ .released then some (.ofText text) else none := by
  rw [Sockets.heldBy?, m.get?, ite_not]

theorem pathOf?_self : l'.sockets.pathOf? id = some (.ofText text) := by
  rw [Sockets.pathOf?, m.get?]

theorem waits_iff_of_ne (hi : i ≠ id) : l'.Waits i q ↔ l.Waits i q := by
  simp only [Waits, m.listeners i hi, m.ending i hi]

/-- What is outstanding on other paths does not change. -/
theorem settled (hq : q ≠ .ofText text) (h : l.Settled q) : l'.Settled q := by
  intro j asked made
  have hj : j ≠ id := by
    rintro rfl
    exact hq (Option.some.inj (made.symm.trans m.pathOf?_self))
  rw [GivenUp, m.heldBy?_of_ne hj, m.ending j hj]
  exact h j (m.removing j hj asked) ((m.pathOf?_of_ne hj).symm.trans made)

end Moves

/-- What a step does, and with which right. -/
inductive Effect (l : Listening) (x : SocketEvent) (l' : Listening) : Prop where
  /-- No socket is lost but from elsewhere or to the removal of an attempt that was given up. -/
  | files (path : SocketPath) (files : l.Files l' path)
      (socket : l'.sockets.listenerAt? (.path path) = l.sockets.listenerAt? (.path path) ∨
        l'.sockets.listenerAt? (.path path) = none ∧
          ((∃ content?, x = .elsewhere path content?) ∨ ¬ l.Settled path))
  /-- A path comes to be held by whom nobody is before, or its holder changes what is its own. -/
  | moves (id : Nat) (text : String) (phase : ListenerPhase) (moves : l.Moves l' id text phase)
      (entitled : l.sockets.heldBy? id = some (.ofText text) ∨
        l.sockets.claims.find? (.ofText text) = none ∧ id = l.sockets.listeners.size)
      (waiting : x = .unlinks id ∨ ∀ path, ¬ l.Waits id path)
      (released : x = .unclaims id ∨ phase ≠ .released)
      (outlives : id ∈ l'.removing → l'.GivenUp id → id ∈ l.removing ∧
        (x = .unlinks id ∨ l.GivenUp id))

/-- While the holder of a path does not wait there, nobody does. -/
theorem Sound.listenerAt?_of_not_waits (h : l.Sound) (held : l.sockets.heldBy? id = some path)
    (other : ¬ l.Waits id path) : l.sockets.listenerAt? (.path path) = none := by
  rw [Option.eq_none_iff_forall_ne_some]
  intro i there
  have waits := h.waits path i there
  exact other (h.eq_of_holds waits.heldBy? held ▸ waits)

theorem Effect.of_sockets_eq (sockets : l'.sockets = l.sockets) (ending : l'.ending = l.ending)
    (removing : ∀ j ∈ l'.removing, j ∈ l.removing) : l.Effect x l' :=
  .files (.ofText "") ⟨by rw [sockets], by rw [sockets], ending, removing,
    fun _ _ => by rw [sockets]⟩ (.inl (by rw [sockets]))

/-- Whoever holds a path comes to another phase, before it ends. -/
theorem Moves.of_setPhase {s : Sockets} {before : ListenerPhase} {removing : List Nat} (h : l.Sound)
    (get : l.sockets.listeners.get? id = some ⟨.path text, before⟩) (live : before ≠ .released)
    (claims : s.claims = l.sockets.claims) (listeners : s.listeners = l.sockets.listeners)
    (entries : ∀ q ≠ .ofText text, s.entries.find? q = l.sockets.entries.find? q)
    (asked : ∀ j ∈ removing, j ∈ l.removing) (stays : phase ≠ .released)
    (socket : s.listenerAt? (.path (.ofText text)) =
      if phase = .waiting ∧ id ∉ l.ending then some id else none) :
    l.Moves ⟨s.setPhase id phase, l.ending, removing⟩ id text phase where
  claims := fun q _ => congrArg (KeyMap.find? · q) claims
  entries := entries
  listeners := fun j hj => (Sockets.get?_setPhase_of_ne hj _).trans (by rw [listeners])
  ending := fun _ _ => Iff.rfl
  removing := fun j _ => asked j
  get? := Sockets.get?_setPhase (listeners ▸ get) _
  claim := by
    rw [if_pos stays, Sockets.claims_setPhase, claims]
    exact (h.claims_iff _ id).2 (Sockets.heldBy?_of_get? get live)
  socket := socket
  live := fun _ => stays

theorem Sound.moves_withClaim (h : l.Sound) (free : l.sockets.claims.find? (.ofText text) = none) :
    l.Moves (l.withClaim text) l.sockets.listeners.size text .claimed where
  claims := fun _ hq => KeyMap.find?_insert_of_ne _ hq.symm _
  entries := fun _ _ => rfl
  listeners := fun _ hj => (Arena.get?_push _ _ _).trans (if_neg hj)
  ending := fun _ _ => Iff.rfl
  removing := fun _ hj mem => (List.mem_cons.1 mem).resolve_left hj
  get? := Arena.get?_push_self _ _
  claim := KeyMap.find?_insert_self _ _ _
  socket := by
    rw [if_neg nofun, Option.eq_none_iff_forall_ne_some]
    intro j there
    cases free.symm.trans ((h.claims_iff _ j).2 (h.waits _ j there).heldBy?)
  live := nofun

/-- A listener may end at any point: while it waits, or before it has come to listen. -/
theorem Sound.moves_withEnding (h : l.Sound)
    (get : l.sockets.listeners.get? id = some ⟨.path text, phase⟩) (live : phase ≠ .released) :
    l.Moves (l.withEnding id (.ofText text)) id text phase where
  claims := fun _ _ => by rw [withEnding, Sockets.claims_unlink]
  entries := fun _ hq => Sockets.find?_unlink_of_ne hq
  listeners := fun _ _ => by rw [withEnding, Sockets.listeners_unlink]
  ending := fun _ hj => List.mem_cons.trans (or_iff_right hj)
  removing := fun _ _ mem => mem
  get? := by rw [withEnding, Sockets.listeners_unlink, get]
  claim := by
    rw [withEnding, Sockets.claims_unlink, if_pos live]
    exact (h.claims_iff _ id).2 (Sockets.heldBy?_of_get? get live)
  socket := by
    rw [if_neg fun goesOn => goesOn.2 List.mem_cons_self]
    exact Sockets.listenerAt?_unlink_self
  live := fun _ => live

theorem Sound.moves_withoutClaim (h : l.Sound) (ends : id ∈ l.ending)
    (held : l.sockets.heldBy? id = some (.ofText text))
    (get : (l.sockets.unclaim id).listeners.get? id = some ⟨.path text, .released⟩) :
    l.Moves (l.withoutClaim id) id text .released where
  claims := fun _ hq => Sockets.find?_claims_unclaim_of_ne held hq
  entries := fun _ _ => by rw [withoutClaim, Sockets.entries_unclaim]
  listeners := fun _ hj => Sockets.get?_unclaim_of_ne hj
  ending := fun _ hj => by simp [withoutClaim, hj]
  removing := fun _ _ mem => mem
  get? := get
  claim := Sockets.find?_claims_unclaim held
  socket := by
    rw [if_neg nofun, withoutClaim, Sockets.listenerAt?_unclaim]
    exact h.listenerAt?_of_not_waits held fun waits => waits.notMem ends
  live := by simp [withoutClaim]

/-- A step keeps to its own listener and path. -/
theorem Step.effect (h : l.Sound) (step : l.Step x l') : l.Effect x l' := by
  cases step with
  | idle => exact .of_sockets_eq rfl rfl fun _ mem => mem
  | uncleared id => exact .of_sockets_eq rfl rfl fun _ => mem_of_mem_removing_carriedOut
  | @removed id path asked made givenUp =>
    have files : l.Files { l.carriedOut id with sockets := l.sockets.unlink path } path :=
      ⟨Sockets.claims_unlink, Sockets.listeners_unlink, rfl,
        fun _ => mem_of_mem_removing_carriedOut, fun _ => Sockets.find?_unlink_of_ne⟩
    have unsettled : ¬ l.Settled path := fun settled => settled id asked made givenUp
    exact .files path files (.inr ⟨Sockets.listenerAt?_unlink_self, .inr unsettled⟩)
  | @changed path content? noSocket =>
    have files : l.Files { l with sockets := l.sockets.place path content? } path :=
      ⟨Sockets.claims_place _, Sockets.listeners_place _, rfl, fun _ mem => mem,
        fun _ => Sockets.find?_place_of_ne _⟩
    exact .files path files
      (.inr ⟨Sockets.listenerAt?_place_of_ne_socket noSocket, .inl ⟨_, rfl⟩⟩)
  | @claimed text free =>
    have moves := h.moves_withClaim free
    refine .moves _ text .claimed moves (.inr ⟨free, rfl⟩) (.inr fun path waits => ?_)
      (.inr (by decide)) fun _ givenUp => ?_
    · cases (Sockets.heldBy?_size _).symm.trans waits.heldBy?
    · exact absurd givenUp (not_givenUp_of_get? moves.get? (by decide) h.notMem_ending)
  | @cleared id text get =>
    have moves : l.Moves { l.carriedOut id with
        sockets := (l.sockets.unlink (.ofText text)).setPhase id .cleared } id text .cleared :=
      .of_setPhase h get (by decide) Sockets.claims_unlink Sockets.listeners_unlink
        (fun _ => Sockets.find?_unlink_of_ne) (fun _ => mem_of_mem_removing_carriedOut)
        (by decide) Sockets.listenerAt?_unlink_self
    refine .moves id text .cleared moves (.inl (Sockets.heldBy?_of_get? get (by decide)))
      (.inr (not_waits_of_get? get (by decide))) (.inr (by decide)) fun asked => ?_
    exact absurd rfl (of_decide_eq_true (List.mem_filter.1 asked).2)
  | @listened id text goesOn get =>
    have moves : l.Moves { l with
        sockets := (l.sockets.place (.ofText text) (some (.socket id))).setPhase id .waiting }
        id text .waiting :=
      .of_setPhase h get (by decide) (Sockets.claims_place _) (Sockets.listeners_place _)
        (fun _ => Sockets.find?_place_of_ne _) (fun _ mem => mem) (by decide)
        (Sockets.listenerAt?_place_socket.trans (if_pos ⟨rfl, goesOn⟩).symm)
    refine .moves id text .waiting moves (.inl (Sockets.heldBy?_of_get? get (by decide)))
      (.inr (not_waits_of_get? get (by decide))) (.inr (by decide)) fun _ givenUp => ?_
    exact absurd givenUp (not_givenUp_of_get? moves.get? (by decide) goesOn)
  | @unlinked id path held =>
    obtain ⟨text, phase, get, live, rfl⟩ := Sockets.heldBy?_eq_some_iff.1 held
    exact .moves id text phase (h.moves_withEnding get live) (.inl held) (.inl rfl) (.inr live)
      fun asked _ => ⟨asked, .inl rfl⟩
  | @unclaimed id ends =>
    obtain ⟨path, held⟩ := h.holds id ends
    obtain ⟨text, get, rfl⟩ := Sockets.get?_unclaim held
    exact .moves id text .released (h.moves_withoutClaim ends held get) (.inl held)
      (.inr fun _ waits => waits.notMem ends) (.inl rfl) fun asked _ => ⟨asked, .inr (.inr ends)⟩

/-- Where somebody else holds a path, or nobody has, a step of one listener has no right to it. -/
theorem Sound.ne_of_entitled (h : l.Sound) (held : l.sockets.heldBy? i = some path) (hi : i ≠ id)
    (entitled : l.sockets.heldBy? id = some (.ofText text) ∨
      l.sockets.claims.find? (.ofText text) = none ∧ id = l.sockets.listeners.size) :
    path ≠ .ofText text := by
  rintro rfl
  obtain heldToo | ⟨free, -⟩ := entitled
  · exact hi (h.eq_of_holds held heldToo)
  · cases free.symm.trans ((h.claims_iff _ i).2 held)

theorem Sound.of_files (h : l.Sound) (f : l.Files l' path)
    (socket : l'.sockets.listenerAt? (.path path) = l.sockets.listenerAt? (.path path) ∨
      l'.sockets.listenerAt? (.path path) = none) : l'.Sound := by
  constructor
  · intro q j
    rw [f.claims, f.heldBy?]
    exact h.claims_iff q j
  · intro q j there
    rw [f.waits_iff]
    by_cases hq : q = path
    · subst hq
      obtain same | lost := socket
      · exact h.waits q j (same.symm.trans there)
      · cases lost.symm.trans there
    · exact h.waits q j ((Sockets.listenerAt?_congr (f.entries q hq)).symm.trans there)
  · intro j ends
    rw [f.heldBy?]
    exact h.holds j (f.ending ▸ ends)
  · intro j asked
    rw [f.pathOf?]
    exact h.made j (f.removing j asked)

theorem Sound.of_moves (h : l.Sound) (m : l.Moves l' id text phase)
    (entitled : l.sockets.heldBy? id = some (.ofText text) ∨
      l.sockets.claims.find? (.ofText text) = none ∧ id = l.sockets.listeners.size) :
    l'.Sound := by
  have only : ∀ j, l.sockets.heldBy? j = some (.ofText text) → j = id := fun j held =>
    Decidable.byContradiction fun hj => h.ne_of_entitled held hj entitled rfl
  have own : ∀ q, l.sockets.heldBy? id = some q → q = .ofText text := by
    intro q held
    obtain held' | ⟨-, rfl⟩ := entitled
    · exact Option.some.inj (held.symm.trans held')
    · cases (Sockets.heldBy?_size _).symm.trans held
  constructor
  · intro q j
    by_cases hj : j = id
    · subst hj
      rw [m.heldBy?_self]
      by_cases hq : q = .ofText text
      · rw [hq, m.claim]
        by_cases live : phase ≠ .released <;> simp [live]
      · rw [m.claims q hq, h.claims_iff]
        constructor
        · exact fun held => absurd (own q held) hq
        · intro held
          split at held
          · exact absurd (Option.some.inj held).symm hq
          · cases held
    · rw [m.heldBy?_of_ne hj]
      by_cases hq : q = .ofText text
      · rw [hq, m.claim]
        have notHeld : l.sockets.heldBy? j ≠ some (.ofText text) := fun held => hj (only j held)
        simp [notHeld, Ne.symm hj]
      · rw [m.claims q hq, h.claims_iff]
  · intro q j there
    by_cases hq : q = .ofText text
    · rw [hq, m.socket] at there
      split at there
      · next waits =>
        obtain rfl := Option.some.inj there
        exact ⟨text, hq.symm, by rw [m.get?, waits.1], waits.2⟩
      · cases there
    · have waits := h.waits q j ((Sockets.listenerAt?_congr (m.entries q hq)).symm.trans there)
      refine (m.waits_iff_of_ne ?_).2 waits
      rintro rfl
      exact hq (own q waits.heldBy?)
  · intro j ends
    by_cases hj : j = id
    · subst hj
      exact ⟨_, m.heldBy?_self.trans (if_pos (m.live ends))⟩
    · rw [m.heldBy?_of_ne hj]
      exact h.holds j ((m.ending j hj).1 ends)
  · intro j asked
    by_cases hj : j = id
    · exact ⟨_, hj ▸ m.pathOf?_self⟩
    · rw [m.pathOf?_of_ne hj]
      exact h.made j (m.removing j hj asked)

theorem Sound.step (h : l.Sound) (step : l.Step x l') : l'.Sound := by
  cases step.effect h with
  | files _ f socket => exact h.of_files f (socket.imp id And.left)
  | moves _ _ _ m entitled => exact h.of_moves m entitled

/-- Who waits goes on to wait, until it ends itself. -/
theorem Waits.step (h : l.Sound) (waits : l.Waits i path) (goesOn : x ≠ .unlinks i)
    (step : l.Step x l') : l'.Waits i path := by
  cases step.effect h with
  | files _ f => exact f.waits_iff.2 waits
  | moves id text phase m entitled waiting =>
    have hi : i ≠ id := by
      rintro rfl
      exact waiting.elim goesOn fun never => never path waits
    exact (m.waits_iff_of_ne hi).2 waits

end Listening

end PredictiveScaling
