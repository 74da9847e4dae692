import PredictiveScaling.Proofs.Remote.Listening

/-!
# Paths are exclusive

However the steps of those who listen, or want to, come one after the other: a path is held by one
of them at most, nobody else gets anything done on it, and whoever ends leaves it to the next one
(`Listening.exclusive_run`).

A listener that waits keeps its socket as long as no removal of an attempt that was given up is
outstanding on its path (`Listening.Guards`). None is, if attempts are given up only when nothing is
removed for them any more (`Listening.Calm`); else the socket may be lost
(`Listening.listenerAt?_of_givenUp`).
-/
namespace PredictiveScaling

namespace Listening

variable {l l' : Listening} {x : SocketEvent} {id i : Nat} {text : String} {path : SocketPath}

/-! ## Listeners that keep their sockets -/

/-- A listener that waits, with its socket, on a path where nothing is removed any more for those
who have given it up. -/
structure Guards (l : Listening) (id : Nat) (path : SocketPath) : Prop where
  waits : l.Waits id path
  socket : l.sockets.listenerAt? (.path path) = some id
  settled : l.Settled path

theorem Guards.step (h : l.Sound) (g : l.Guards i path) (goesOn : x ≠ .unlinks i)
    (inside : ∀ content?, x ≠ .elsewhere path content?) (step : l.Step x l') :
    l'.Guards i path := by
  have waits' := g.waits.step h goesOn step
  cases step.effect h with
  | files q f socket =>
    refine ⟨waits', ?_, f.settled g.settled⟩
    by_cases hq : path = q
    · subst hq
      obtain same | ⟨-, ⟨content?, rfl⟩ | unsettled⟩ := socket
      · exact same.trans g.socket
      · exact absurd rfl (inside content?)
      · exact absurd g.settled unsettled
    · exact (Sockets.listenerAt?_congr (f.entries path hq)).trans g.socket
  | moves id text phase m entitled waiting =>
    have hi : i ≠ id := by
      rintro rfl
      exact waiting.elim goesOn fun never => never path g.waits
    have hq := h.ne_of_entitled g.waits.heldBy? hi entitled
    exact ⟨waits', (Sockets.listenerAt?_congr (m.entries path hq)).trans g.socket,
      m.settled hq g.settled⟩

/-- A removal that outlives its attempt takes the socket of whoever waits there by then. -/
theorem listenerAt?_of_givenUp (asked : id ∈ l.removing) (made : l.sockets.pathOf? id = some path)
    (givenUp : l.GivenUp id) :
    (l.undergo (.clears id)).sockets.listenerAt? (.path path) = none := by
  rw [undergo, if_pos asked, if_pos givenUp, removeLate, sockets_carriedOut, made]
  exact Sockets.listenerAt?_unlink_self

/-- The first attempt is given up and the second one gets to listen before anything is removed for
the first one. Then the second one loses its socket, and waits on. -/
example :
    let l := (start .empty fun _ => none).run [.claims "/run/done", .unlinks 0, .unclaims 0,
      .claims "/run/done", .clears 1, .listens 1]
    l.sockets.listener? (.path "/run/done") = some 1 ∧
      (l.undergo (.clears 0)).sockets.listener? (.path "/run/done") = none ∧
      (l.undergo (.clears 0)).sockets.listeners.get? 1 = some ⟨.path "/run/done", .waiting⟩ := by
  decide +kernel

/-! ## Attempts that wait for their removal -/

/-- No removal outlives its attempt. -/
def Calm (l : Listening) : Prop := ∀ id ∈ l.removing, ¬ l.GivenUp id

/-- Nobody gives an attempt up while the removal that it has asked for is outstanding. -/
def Patient : Listening → List SocketEvent → Prop
  | _, [] => True
  | l, x :: xs => (∀ id ∈ l.removing, x ≠ .unlinks id) ∧ Patient (l.undergo x) xs

theorem Calm.step (h : l.Sound) (calm : l.Calm) (patient : ∀ id ∈ l.removing, x ≠ .unlinks id)
    (step : l.Step x l') : l'.Calm := by
  intro j asked
  cases step.effect h with
  | files _ f =>
    rw [GivenUp, f.heldBy?, f.ending]
    exact calm j (f.removing j asked)
  | moves id text phase m _ _ _ outlives =>
    by_cases hj : j = id
    · subst hj
      intro givenUp
      obtain ⟨asked', ended | before⟩ := outlives asked givenUp
      · exact patient j asked' ended
      · exact calm j asked' before
    · rw [GivenUp, m.heldBy?_of_ne hj, m.ending j hj]
      exact calm j (m.removing j hj asked)

/-! ## All steps -/

theorem run_append (l : Listening) (xs ys : List SocketEvent) :
    l.run (xs ++ ys) = (l.run xs).run ys :=
  List.foldl_append

theorem Sound.run (h : l.Sound) (xs : List SocketEvent) : (l.run xs).Sound := by
  induction xs generalizing l with
  | nil => exact h
  | cons x xs ih => exact ih (h.step (step_undergo l x))

/-- What every step of a certain kind keeps, a run of such steps keeps. -/
theorem Sound.run_of_step {P : Listening → Prop} {Q : SocketEvent → Prop}
    (keeps : ∀ l x l', l.Sound → P l → Q x → l.Step x l' → P l') (h : l.Sound) (hl : P l)
    {xs : List SocketEvent} (all : ∀ x ∈ xs, Q x) : P (l.run xs) := by
  induction xs generalizing l with
  | nil => exact hl
  | cons x xs ih =>
    obtain ⟨first, rest⟩ := List.forall_mem_cons.1 all
    have step := step_undergo l x
    exact ih (h.step step) (keeps l x _ h hl first step) rest

theorem Waits.run (h : l.Sound) (waits : l.Waits i path) {xs : List SocketEvent}
    (goesOn : .unlinks i ∉ xs) : (l.run xs).Waits i path := by
  refine Sound.run_of_step (P := fun l => l.Waits i path) (Q := (· ≠ .unlinks i))
    (fun _ _ _ h waits => waits.step h) h waits ?_
  rintro _ mem rfl
  exact goesOn mem

theorem Guards.run (h : l.Sound) (g : l.Guards i path) {xs : List SocketEvent}
    (goesOn : .unlinks i ∉ xs) (inside : ∀ content?, .elsewhere path content? ∉ xs) :
    (l.run xs).Guards i path := by
  refine Sound.run_of_step (P := fun l => l.Guards i path)
    (Q := fun x => x ≠ .unlinks i ∧ ∀ content?, x ≠ .elsewhere path content?)
    (fun _ _ _ h g own => g.step h own.1 own.2) h g fun x mem => ⟨?_, ?_⟩
  · rintro rfl
    exact goesOn mem
  · rintro content? rfl
    exact inside content? mem

theorem Calm.run (h : l.Sound) (calm : l.Calm) {xs : List SocketEvent} (patient : l.Patient xs) :
    (l.run xs).Calm := by
  induction xs generalizing l with
  | nil => exact calm
  | cons x xs ih =>
    have step := step_undergo l x
    exact ih (h.step step) (calm.step h patient.1 step) patient.2

/-! ## Attempts and ends as wholes -/

theorem filter_cons_self {ids : List Nat} (h : id ∉ ids) : (id :: ids).filter (· ≠ id) = ids := by
  rw [List.filter_cons_of_neg (by simp), List.filter_eq_self]
  intro j hj
  simpa using fun same : j = id => h (same ▸ hj)

/-- To release a listener is the two steps with nothing between them. -/
theorem run_release (l : Listening) (goesOn : id ∉ l.ending)
    (held : l.sockets.heldBy? id = some path) :
    l.run [.unlinks id, .unclaims id] = { l with sockets := l.sockets.release id } := by
  simp only [run, List.foldl_cons, List.foldl_nil, undergo, held, if_neg goesOn,
    if_pos List.mem_cons_self, filter_cons_self goesOn, Sockets.release_eq held]

/-- The removal for an attempt that is not given up is the second part of it. -/
theorem undergo_clears {s : Sockets} {ending removing : List Nat}
    (get : s.listeners.get? id = some ⟨.path text, .claimed⟩) (goesOn : id ∉ ending)
    (fresh : id ∉ removing) :
    undergo ⟨s, ending, id :: removing⟩ (.clears id) =
      proceed ⟨s, ending, removing⟩ id (s.clear id) := by
  have runs : ¬ GivenUp ⟨s, ending, id :: removing⟩ id :=
    not_givenUp_of_get? get (by decide) goesOn
  rw [undergo, if_pos List.mem_cons_self, if_neg runs, carriedOut]
  simp only [filter_cons_self fresh]

/-- An attempt as a whole is its steps with nothing between them. -/
theorem exists_run_bindPath (h : l.Sound) (text : String) :
    ∃ xs, l.run xs = { l with sockets := (l.sockets.bindPath text).2 } := by
  cases hclaim : l.sockets.claim text with
  | error e => exact ⟨[], by rw [Sockets.bindPath, hclaim]; rfl⟩
  | ok claimed =>
    obtain ⟨id, s⟩ := claimed
    obtain ⟨hid, get⟩ := Sockets.claim_ok hclaim
    have goesOn : id ∉ l.ending := hid ▸ h.notMem_ending
    have fresh : id ∉ l.removing := hid ▸ h.notMem_removing
    have removed : l.run [.claims text, .clears id] =
        proceed ⟨s, l.ending, l.removing⟩ id (s.clear id) := by
      rw [run, List.foldl_cons, List.foldl_cons, List.foldl_nil, undergo, hclaim]
      exact undergo_clears get goesOn fresh
    rcases hclear : s.clear id with ⟨_ | _, t⟩
    · -- An attempt that fails has been released, which is the last two steps.
      obtain ⟨rfl, _, held⟩ := Sockets.clear_error hclear
      refine ⟨[.claims text, .clears id] ++ [.unlinks id, .unclaims id], ?_⟩
      rw [run_append, removed, hclear, proceed, run_release ⟨s, l.ending, l.removing⟩ goesOn held,
        Sockets.bindPath, hclaim]
      simp only [hclear]
    · have cleared : l.run [.claims text, .clears id] = { l with sockets := t } := by
        rw [removed, hclear, proceed, if_neg goesOn]
      rcases hlisten : t.listen id with ⟨_ | _, u⟩
      · obtain ⟨rfl, _, held⟩ := Sockets.listen_error hlisten
        refine ⟨[.claims text, .clears id] ++ [.unlinks id, .unclaims id], ?_⟩
        rw [run_append, cleared, run_release ⟨t, l.ending, l.removing⟩ goesOn held,
          Sockets.bindPath, hclaim]
        simp only [hclear, hlisten]
      · refine ⟨[.claims text, .clears id] ++ [.listens id], ?_⟩
        rw [run_append, cleared, Sockets.bindPath, hclaim]
        simp only [run, List.foldl_cons, List.foldl_nil, undergo, hclear, hlisten, proceed,
          if_neg goesOn]

/-- What makes the use of paths exclusive. -/
structure Exclusive (l : Listening) : Prop where
  /-- A path has one holder at most, from its claim on. -/
  holder_unique : ∀ {path i j}, l.sockets.heldBy? i = some path →
    l.sockets.heldBy? j = some path → i = j
  /-- An attempt on a path that is held, in whatever way the path is written, fails and leaves all
  as it is. -/
  bindPath_held : ∀ {text i}, l.sockets.heldBy? i = some (.ofText text) →
    l.sockets.bindPath text = (.error (.awaitingReport text), l.sockets)
  /-- Nobody but its holder gives up the claim on a path. -/
  claim_kept : ∀ {path i ys}, l.sockets.heldBy? i = some path → .unclaims i ∉ ys →
    (l.run ys).sockets.claims.find? path = some i
  /-- Nobody but itself ends the wait of a listener. -/
  waits_on : ∀ {path i ys}, l.Waits i path → .unlinks i ∉ ys → (l.run ys).Waits i path
  /-- Whoever comes to wait has its socket on the path. -/
  socket_there : ∀ {path i x}, ¬ l.Waits i path → (l.undergo x).Waits i path →
    (l.undergo x).sockets.listenerAt? (.path path) = some i
  /-- On a settled path nobody of the process but the listener itself removes its socket. -/
  socket_kept : ∀ {path i ys}, l.Waits i path → l.sockets.listenerAt? (.path path) = some i →
    l.Settled path → .unlinks i ∉ ys → (∀ content?, .elsewhere path content? ∉ ys) →
    (l.run ys).sockets.listenerAt? (.path path) = some i
  /-- Whatever way a listener or an attempt ends, nobody claims its path. -/
  unclaimed : ∀ {path i s}, l.sockets.heldBy? i = some path → l.sockets.Ends i s →
    s.claims.find? path = none
  /-- After it the next attempt succeeds, if it finds nothing that cannot be removed and the system
  lets it listen. -/
  bindPath_after : ∀ {text i s}, l.sockets.heldBy? i = some (.ofText text) → l.sockets.Ends i s →
    (∀ cause, l.sockets.entries.find? (.ofText text) ≠ some (.fixed cause)) → s.Willing →
    ∃ s', s.bindPath text = (.ok s.listeners.size, s') ∧
      s'.listener? (.path text) = some s.listeners.size
  /-- It does so too if others came between the two steps of the end. -/
  bindPath_between : ∀ {text i}, i ∈ l.ending → l.sockets.heldBy? i = some (.ofText text) →
    (l.undergo (.unclaims i)).sockets.claims.find? (.ofText text) = none ∧
      ((∀ cause, l.sockets.entries.find? (.ofText text) ≠ some (.fixed cause)) →
        l.sockets.Willing →
        ∃ s', (l.undergo (.unclaims i)).sockets.bindPath text =
            (.ok l.sockets.listeners.size, s') ∧
          s'.listener? (.path text) = some l.sockets.listeners.size)

end Listening

end PredictiveScaling
