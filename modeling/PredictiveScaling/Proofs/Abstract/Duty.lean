import Mathlib.Data.List.Nodup
import Mathlib.Logic.Function.Basic
import PredictiveScaling.Evaluation.Round

/-!
# Rounds on duty

All that matters here of a controller is which loops and rounds there are, how far they have come
and what rounds ask for. An evaluation loop has one round at a time, which asks for the current
count and sets one at most. The loop waits until the round has ended, and when it ends itself it
gives the round up. So a loop that has ended begins no round and asks for nothing any more
(`Duty.Step.silent`), and of all counts that were set in its rounds one at most is still to be
answered (`Duty.Sound.length_le_one`).
-/
namespace PredictiveScaling

/-- How far a round has come. -/
inductive Standing where
  /-- There are predictors to visit or forecasts to wait for. -/
  | gathering
  | reading
  | setting
  | ended
  | abandoned

def Standing.isOver : Standing → Bool
  | .ended | .abandoned => true
  | .gathering | .reading | .setting => false

/-- What loops and rounds have to do with each other, and what rounds ask for. -/
@[ext]
structure Duty where
  loop : Nat → Option EvaluationLoopPhase
  /-- The loop that a round belongs to, and how far the round has come. -/
  round : Nat → Option (Option Nat × Standing)
  /-- The rounds that ask for the current count, or for one to be set. -/
  calls : List (Nat × Option Int32)

namespace Duty

def turn (d : Duty) (l : Nat) (phase : EvaluationLoopPhase) : Duty :=
  { d with loop := Function.update d.loop l (some phase) }

def put (d : Duty) (id : Nat) (owner : Option Nat) (standing : Standing) : Duty :=
  { d with round := Function.update d.round id (some (owner, standing)) }

def call (d : Duty) (x : Nat × Option Int32) : Duty := { d with calls := d.calls ++ [x] }

/-- A loop waits for its ticker again if it has waited for this round. -/
def release (d : Duty) (id : Nat) : Option Nat → Duty
  | some l => if d.loop l = some (.evaluating id) then d.turn l .waiting else d
  | none => d

def owner (d : Duty) (id : Nat) : Option Nat := (d.round id).bind Prod.fst

/-- The counts that are set. -/
def sets (d : Duty) : List (Nat × Int32) := d.calls.filterMap fun x => x.2.map (x.1, ·)

/-- What a round can do at a time. A round that has set a count ends when that is answered. -/
inductive Act (id : Nat) (answered : Option Nat) (d : Duty) : Duty → Prop where
  | rests : Act id answered d d
  /-- The current count is needed for a forecast. -/
  | counts {owner : Option Nat} (gathering : d.round id = some (owner, .gathering)) :
      Act id answered d (d.call (id, none))
  /-- There is a goal, and the current count is needed for it. -/
  | aims {owner : Option Nat} (gathering : d.round id = some (owner, .gathering)) :
      Act id answered d ((d.put id owner .reading).call (id, none))
  | sets {owner : Option Nat} (reading : d.round id = some (owner, .reading)) (n : Int32) :
      Act id answered d ((d.put id owner .setting).call (id, some n))
  | ends {owner : Option Nat} {standing : Standing} (found : d.round id = some (owner, standing))
      (active : standing.isOver = false) (due : standing = .setting → answered = some id) :
      Act id answered d ((d.put id owner .ended).release id owner)

/-- What can happen. -/
inductive Step (answered : Option Nat) (d : Duty) : Duty → Prop where
  | acts {id : Nat} {d' : Duty} (act : d.Act id answered d') : Step answered d d'
  | spawns {l : Nat} (fresh : d.loop l = none) : Step answered d (d.turn l .starting)
  | starts {l : Nat} (starting : d.loop l = some .starting) : Step answered d (d.turn l .waiting)
  /-- The ticker of a loop is due. -/
  | begins {l id : Nat} {d' : Duty} (waiting : d.loop l = some .waiting)
      (fresh : d.round id = none)
      (act : ((d.turn l (.evaluating id)).put id (some l) .gathering).Act id answered d') :
      Step answered d d'
  /-- A round is begun that belongs to no loop. -/
  | serves {id : Nat} {d' : Duty} (fresh : d.round id = none)
      (act : (d.put id none .gathering).Act id answered d') : Step answered d d'
  | ends {l : Nat} {phase : EvaluationLoopPhase} (found : d.loop l = some phase)
      (idle : ∀ id, phase ≠ .evaluating id) : Step answered d (d.turn l .ended)
  /-- A loop ends in the middle of a round. -/
  | givesUp {l id : Nat} (evaluating : d.loop l = some (.evaluating id)) :
      Step answered d ((d.put id (some l) .abandoned).turn l .ended)

/-- A loop has one round that is not over, and it waits for that one. It gives up one round at
most, and ends with it. -/
structure Sound (d : Duty) : Prop where
  evaluating_of_active : ∀ id l s, d.round id = some (some l, s) → s.isOver = false →
    d.loop l = some (.evaluating id)
  exists_active : ∀ l id, d.loop l = some (.evaluating id) →
    ∃ s, d.round id = some (some l, s) ∧ s.isOver = false
  ended_of_abandoned : ∀ id l, d.round id = some (some l, .abandoned) → d.loop l = some .ended
  eq_of_abandoned : ∀ i j l, d.round i = some (some l, .abandoned) →
    d.round j = some (some l, .abandoned) → i = j

variable {d d' : Duty} {id j l k : Nat} {owner answered : Option Nat} {s s' : Standing}
  {phase phase' : EvaluationLoopPhase} {x : Option Nat × Standing}

theorem loop_turn_self : (d.turn l phase).loop l = some phase := Function.update_self ..

theorem loop_turn_of_ne (other : k ≠ l) : (d.turn l phase).loop k = d.loop k :=
  Function.update_of_ne other ..

theorem round_put_self : (d.put id owner s).round id = some (owner, s) := Function.update_self ..

theorem round_put_of_ne (other : j ≠ id) : (d.put id owner s).round j = d.round j :=
  Function.update_of_ne other ..

theorem loop_turn_cases (h : (d.turn l phase).loop k = some phase') :
    k = l ∧ phase' = phase ∨ k ≠ l ∧ d.loop k = some phase' := by
  by_cases same : k = l
  · subst same
    rw [loop_turn_self] at h
    exact .inl ⟨rfl, (Option.some.inj h).symm⟩
  · rw [loop_turn_of_ne same] at h
    exact .inr ⟨same, h⟩

theorem round_put_cases (h : (d.put id owner s).round j = some x) :
    j = id ∧ x = (owner, s) ∨ j ≠ id ∧ d.round j = some x := by
  by_cases same : j = id
  · subst same
    rw [round_put_self] at h
    exact .inl ⟨rfl, (Option.some.inj h).symm⟩
  · rw [round_put_of_ne same] at h
    exact .inr ⟨same, h⟩

theorem put_self (found : d.round id = some (owner, s)) : d.put id owner s = d := by
  rw [put, ← found, Function.update_eq_self]

theorem release_of_evaluating (evaluating : d.loop l = some (.evaluating id)) :
    d.release id (some l) = d.turn l .waiting := if_pos evaluating

theorem Step.of_eq (same : d' = d) : d.Step answered d' := by
  have act : d.Act 0 answered d := .rests
  rw [same]
  exact .acts act

namespace Sound

variable (h : d.Sound)
include h

/-- A round goes on. -/
theorem put (found : d.round id = some (owner, s)) (active : s.isOver = false)
    (active' : s'.isOver = false) : (d.put id owner s').Sound where
  evaluating_of_active j l t hround hactive := by
    rcases round_put_cases hround with ⟨rfl, same⟩ | ⟨-, hround⟩
    · cases same
      exact h.evaluating_of_active j l s found active
    · exact h.evaluating_of_active j l t hround hactive
  exists_active l j evaluating := by
    obtain ⟨t, hround, hactive⟩ := h.exists_active l j evaluating
    by_cases same : j = id
    · subst same
      cases found.symm.trans hround
      exact ⟨s', round_put_self, active'⟩
    · exact ⟨t, (round_put_of_ne same).trans hround, hactive⟩
  ended_of_abandoned j l hround := by
    rcases round_put_cases hround with ⟨rfl, same⟩ | ⟨-, hround⟩
    · cases same
      cases active'
    · exact h.ended_of_abandoned j l hround
  eq_of_abandoned i j l hi hj := by
    rcases round_put_cases hi with ⟨rfl, same⟩ | ⟨-, hi⟩
    · cases same
      cases active'
    · rcases round_put_cases hj with ⟨rfl, same⟩ | ⟨-, hj⟩
      · cases same
        cases active'
      · exact h.eq_of_abandoned i j l hi hj

/-- A loop that has no round goes on. -/
theorem turn (idle : ∀ id, d.loop l ≠ some (.evaluating id)) (idle' : ∀ id, phase ≠ .evaluating id)
    (stays : d.loop l = some .ended → phase = .ended) : (d.turn l phase).Sound where
  evaluating_of_active j k t hround hactive := by
    have evaluating := h.evaluating_of_active j k t hround hactive
    have other : k ≠ l := fun same => idle j (same ▸ evaluating)
    exact (loop_turn_of_ne other).trans evaluating
  exists_active k j evaluating := by
    rcases loop_turn_cases evaluating with ⟨-, same⟩ | ⟨-, evaluating⟩
    · exact absurd same.symm (idle' j)
    · exact h.exists_active k j evaluating
  ended_of_abandoned j k hround := by
    have ended := h.ended_of_abandoned j k hround
    by_cases same : k = l
    · subst same
      rw [loop_turn_self, stays ended]
    · exact (loop_turn_of_ne same).trans ended
  eq_of_abandoned := h.eq_of_abandoned

/-- A round is begun that belongs to no loop, or one that belongs to none is over. -/
theorem put_none (free : ∀ l s, d.round id ≠ some (some l, s)) (s : Standing) :
    (d.put id none s).Sound where
  evaluating_of_active j l t hround hactive := by
    rcases round_put_cases hround with ⟨-, same⟩ | ⟨-, hround⟩
    · cases same
    · exact h.evaluating_of_active j l t hround hactive
  exists_active l j evaluating := by
    obtain ⟨t, hround, hactive⟩ := h.exists_active l j evaluating
    have other : j ≠ id := fun same => free l t (same ▸ hround)
    exact ⟨t, (round_put_of_ne other).trans hround, hactive⟩
  ended_of_abandoned j l hround := by
    rcases round_put_cases hround with ⟨-, same⟩ | ⟨-, hround⟩
    · cases same
    · exact h.ended_of_abandoned j l hround
  eq_of_abandoned i j l hi hj := by
    rcases round_put_cases hi with ⟨-, same⟩ | ⟨-, hi⟩
    · cases same
    · rcases round_put_cases hj with ⟨-, same⟩ | ⟨-, hj⟩
      · cases same
      · exact h.eq_of_abandoned i j l hi hj

/-- A loop begins a round. -/
theorem begin (waiting : d.loop l = some .waiting) (fresh : d.round id = none) :
    ((d.turn l (.evaluating id)).put id (some l) .gathering).Sound where
  evaluating_of_active j k t hround hactive := by
    rcases round_put_cases hround with ⟨rfl, same⟩ | ⟨-, hround⟩
    · cases same
      exact loop_turn_self
    · have evaluating := h.evaluating_of_active j k t hround hactive
      have other : k ≠ l := by
        rintro rfl
        cases waiting.symm.trans evaluating
      exact (loop_turn_of_ne other).trans evaluating
  exists_active k j evaluating := by
    rcases loop_turn_cases evaluating with ⟨rfl, same⟩ | ⟨-, evaluating⟩
    · cases same
      exact ⟨.gathering, round_put_self, rfl⟩
    · obtain ⟨t, hround, hactive⟩ := h.exists_active k j evaluating
      have other : j ≠ id := by
        rintro rfl
        cases fresh.symm.trans hround
      exact ⟨t, (round_put_of_ne other).trans hround, hactive⟩
  ended_of_abandoned j k hround := by
    rcases round_put_cases hround with ⟨-, same⟩ | ⟨-, hround⟩
    · cases same
    · have ended := h.ended_of_abandoned j k hround
      have other : k ≠ l := by
        rintro rfl
        cases waiting.symm.trans ended
      exact (loop_turn_of_ne other).trans ended
  eq_of_abandoned i j k hi hj := by
    rcases round_put_cases hi with ⟨-, same⟩ | ⟨-, hi⟩
    · cases same
    · rcases round_put_cases hj with ⟨-, same⟩ | ⟨-, hj⟩
      · cases same
      · exact h.eq_of_abandoned i j k hi hj

/-- The round of a loop is over, and the loop does not wait for it any more. -/
theorem leave (evaluating : d.loop l = some (.evaluating id)) (finished : s.isOver = true)
    (idle : ∀ j, phase ≠ .evaluating j) (gone : s = .abandoned → phase = .ended) :
    ((d.put id (some l) s).turn l phase).Sound where
  evaluating_of_active j k t hround hactive := by
    rcases round_put_cases hround with ⟨-, same⟩ | ⟨hj, hround⟩
    · cases same
      cases finished.symm.trans hactive
    · have evaluating' := h.evaluating_of_active j k t hround hactive
      have other : k ≠ l := by
        rintro rfl
        cases evaluating.symm.trans evaluating'
        exact hj rfl
      exact (loop_turn_of_ne other).trans evaluating'
  exists_active k j evaluating' := by
    rcases loop_turn_cases evaluating' with ⟨-, same⟩ | ⟨hk, evaluating'⟩
    · exact absurd same.symm (idle j)
    · obtain ⟨t, hround, hactive⟩ := h.exists_active k j evaluating'
      have other : j ≠ id := by
        rintro rfl
        obtain ⟨s, hround', -⟩ := h.exists_active l j evaluating
        cases hround.symm.trans hround'
        exact hk rfl
      exact ⟨t, (round_put_of_ne other).trans hround, hactive⟩
  ended_of_abandoned j k hround := by
    rcases round_put_cases hround with ⟨-, same⟩ | ⟨-, hround⟩
    · cases same
      rw [loop_turn_self, gone rfl]
    · have ended := h.ended_of_abandoned j k hround
      have other : k ≠ l := by
        rintro rfl
        cases evaluating.symm.trans ended
      exact (loop_turn_of_ne other).trans ended
  eq_of_abandoned i j k hi hj := by
    have free : ∀ {j}, d.round j ≠ some (some l, .abandoned) := by
      intro j hround
      cases evaluating.symm.trans (h.ended_of_abandoned j l hround)
    rcases round_put_cases hi with ⟨rfl, same⟩ | ⟨-, before⟩
    · cases same
      rcases round_put_cases hj with ⟨rfl, -⟩ | ⟨-, before⟩
      · rfl
      · exact absurd before free
    · rcases round_put_cases hj with ⟨-, same⟩ | ⟨-, before'⟩
      · cases same
        exact absurd before free
      · exact h.eq_of_abandoned i j k before before'

theorem act (act : d.Act id answered d') : d'.Sound := by
  cases act with
  | rests => exact h
  | counts gathering => exact ⟨h.1, h.2, h.3, h.4⟩
  | aims gathering =>
    have after : (d.put id _ .reading).Sound := h.put gathering rfl rfl
    exact ⟨after.1, after.2, after.3, after.4⟩
  | sets reading n =>
    have after : (d.put id _ .setting).Sound := h.put reading rfl rfl
    exact ⟨after.1, after.2, after.3, after.4⟩
  | @ends owner s found active due =>
    cases owner with
    | none =>
      refine h.put_none (fun l t hround => ?_) .ended
      cases found.symm.trans hround
    | some l =>
      have evaluating := h.evaluating_of_active id l s found active
      rw [release_of_evaluating (d := d.put id (some l) .ended) evaluating]
      exact h.leave evaluating rfl nofun nofun

theorem step (step : d.Step answered d') : d'.Sound := by
  cases step with
  | acts act => exact h.act act
  | spawns fresh =>
    refine h.turn (fun id => ?_) nofun fun ended => ?_
    · rw [fresh]
      nofun
    · cases fresh.symm.trans ended
  | starts starting =>
    refine h.turn (fun id => ?_) nofun fun ended => ?_
    · rw [starting]
      nofun
    · cases starting.symm.trans ended
  | begins waiting fresh act => exact (h.begin waiting fresh).act act
  | serves fresh act =>
    refine (h.put_none (fun l s hround => ?_) .gathering).act act
    cases fresh.symm.trans hround
  | ends found idle =>
    refine h.turn (fun id evaluating => ?_) nofun fun _ => rfl
    exact idle id (Option.some.inj (found.symm.trans evaluating))
  | givesUp evaluating => exact h.leave evaluating rfl nofun fun _ => rfl

end Sound

/-! ## A loop that has ended -/

theorem round_release : (d.release id owner).round = d.round := by
  cases owner with
  | none => rfl
  | some l =>
    rw [release]
    split <;> rfl

theorem calls_release : (d.release id owner).calls = d.calls := by
  cases owner with
  | none => rfl
  | some l =>
    rw [release]
    split <;> rfl

theorem loop_release_of_ended (ended : d.loop l = some .ended) :
    (d.release id owner).loop l = some .ended := by
  cases owner with
  | none => exact ended
  | some k =>
    rw [release]
    split
    · next evaluating =>
      have other : l ≠ k := by
        rintro rfl
        cases evaluating.symm.trans ended
      exact (loop_turn_of_ne other).trans ended
    · exact ended

theorem owner_of_round (found : d.round id = some (owner, s)) : d.owner id = owner := by
  rw [Duty.owner, found]
  rfl

theorem owner_put_of_ne (other : j ≠ id) : (d.put id owner s).owner j = d.owner j :=
  congrArg (Option.bind · Prod.fst) (round_put_of_ne other)

theorem owner_put (found : d.round id = some (owner, s)) (s' : Standing) (j : Nat) :
    (d.put id owner s').owner j = d.owner j := by
  by_cases same : j = id
  · subst same
    rw [owner_of_round found, owner_of_round round_put_self]
  · exact owner_put_of_ne same

/-- Nothing happens in the name of a loop that has ended. -/
structure Silent (l : Nat) (d d' : Duty) : Prop where
  ended : d'.loop l = some .ended
  owner_iff : ∀ id, d'.owner id = some l ↔ d.owner id = some l
  calls : ∀ x ∈ d'.calls, x ∈ d.calls ∨ d'.owner x.1 ≠ some l

theorem Silent.trans {d'' : Duty} (h : Silent l d d') (h' : Silent l d' d'') :
    Silent l d d'' where
  ended := h'.ended
  owner_iff id := (h'.owner_iff id).trans (h.owner_iff id)
  calls x mem := by
    rcases h'.calls x mem with mem | other
    · exact (h.calls x mem).imp_right fun other own => other ((h'.owner_iff x.1).1 own)
    · exact .inr other

/-- A round that is not over does not belong to a loop that has ended. -/
theorem Sound.owner_ne (h : d.Sound) (found : d.round id = some (owner, s))
    (active : s.isOver = false) (ended : d.loop l = some .ended) : d.owner id ≠ some l := by
  rw [owner_of_round found]
  rintro rfl
  cases ended.symm.trans (h.evaluating_of_active id l s found active)

/-- A round that goes on does not ask for anything in the name of a loop that has ended. -/
theorem Sound.silent_call (h : d.Sound) (ended : d.loop l = some .ended)
    (found : d.round id = some (owner, s)) (active : s.isOver = false) (s' : Standing)
    (n : Option Int32) : Silent l d ((d.put id owner s').call (id, n)) := by
  have same := owner_put found s'
  refine ⟨ended, fun j => by rw [← same]; rfl, fun y mem => ?_⟩
  rcases List.mem_append.1 mem with mem | mem
  · exact .inl mem
  · obtain rfl := List.mem_singleton.1 mem
    exact .inr fun own => h.owner_ne found active ended ((same id).symm.trans own)

theorem Act.silent (act : d.Act id answered d') (sound : d.Sound)
    (ended : d.loop l = some .ended) : Silent l d d' := by
  cases act with
  | rests => exact ⟨ended, fun _ => .rfl, fun _ mem => .inl mem⟩
  | counts gathering =>
    have silent := sound.silent_call ended gathering rfl .gathering none
    rwa [put_self gathering] at silent
  | aims gathering => exact sound.silent_call ended gathering rfl .reading none
  | sets reading n => exact sound.silent_call ended reading rfl .setting (some n)
  | @ends owner s found active due =>
    refine ⟨loop_release_of_ended ended, fun j => ?_, fun y mem => ?_⟩
    · rw [Duty.owner, round_release, ← owner_put found .ended]
      rfl
    · rw [calls_release] at mem
      exact .inl mem

theorem Step.silent (step : d.Step answered d') (sound : d.Sound)
    (ended : d.loop l = some .ended) : Silent l d d' := by
  have kept : ∀ {k phase}, d.loop k ≠ some .ended → (d.turn k phase).loop l = some .ended := by
    intro k phase open'
    have other : l ≠ k := fun same => open' (same ▸ ended)
    exact (loop_turn_of_ne other).trans ended
  cases step with
  | acts act => exact act.silent sound ended
  | spawns fresh =>
    refine ⟨kept fun ended => ?_, fun _ => .rfl, fun _ mem => .inl mem⟩
    cases fresh.symm.trans ended
  | starts starting =>
    refine ⟨kept fun ended => ?_, fun _ => .rfl, fun _ mem => .inl mem⟩
    cases starting.symm.trans ended
  | @begins k id _ waiting fresh act =>
    have other : k ≠ l := by
      rintro rfl
      cases waiting.symm.trans ended
    have before : Silent l d ((d.turn k (.evaluating id)).put id (some k) .gathering) := by
      refine ⟨(loop_turn_of_ne (Ne.symm other)).trans ended, fun j => ?_, fun _ mem => .inl mem⟩
      by_cases same : j = id
      · subst same
        rw [owner_of_round round_put_self, Duty.owner, fresh]
        exact iff_of_false (fun own => other (Option.some.inj own)) nofun
      · rw [owner_put_of_ne same]
        rfl
    exact before.trans (act.silent (sound.begin waiting fresh) before.ended)
  | @serves id _ fresh act =>
    have before : Silent l d (d.put id none .gathering) := by
      refine ⟨ended, fun j => ?_, fun _ mem => .inl mem⟩
      by_cases same : j = id
      · subst same
        rw [owner_of_round round_put_self, Duty.owner, fresh]
        rfl
      · rw [owner_put_of_ne same]
    refine before.trans (act.silent (sound.put_none (fun l s hround => ?_) _) before.ended)
    cases fresh.symm.trans hround
  | @ends k phase found idle =>
    refine ⟨?_, fun _ => .rfl, fun _ mem => .inl mem⟩
    by_cases same : l = k
    · subst same
      exact loop_turn_self
    · exact (loop_turn_of_ne same).trans ended
  | @givesUp k id evaluating =>
    obtain ⟨s, found, -⟩ := sound.exists_active k id evaluating
    have same := owner_put found .abandoned
    refine ⟨?_, fun j => by rw [← same]; rfl, fun _ mem => .inl mem⟩
    have other : l ≠ k := by
      rintro rfl
      cases evaluating.symm.trans ended
    exact (loop_turn_of_ne other).trans ended

/-! ## Counts that are being set -/

/-- These counts have been set, but it has not been answered whether they were. Their rounds wait
for that, or have been given up. -/
structure Pends (d : Duty) (sets : List (Nat × Int32)) : Prop where
  nodup : (sets.map Prod.fst).Nodup
  exists_waiting : ∀ x ∈ sets, ∃ owner s, d.round x.1 = some (owner, s) ∧
    (s = .setting ∨ s = .abandoned)

variable {sets : List (Nat × Int32)}

theorem Pends.sublist {sets' : List (Nat × Int32)} (h : d.Pends sets) (sub : sets'.Sublist sets) :
    d.Pends sets' :=
  ⟨h.nodup.sublist (sub.map Prod.fst), fun x mem => h.exists_waiting x (sub.subset mem)⟩

/-- Other rounds go on. -/
theorem Pends.of_ne (h : d.Pends sets) (other : ∀ x ∈ sets, x.1 ≠ id)
    (same : ∀ j ≠ id, d'.round j = d.round j) : d'.Pends sets := by
  refine ⟨h.nodup, fun x mem => ?_⟩
  rw [same x.1 (other x mem)]
  exact h.exists_waiting x mem

theorem Pends.ne_of_round (h : d.Pends sets) (found : d.round id = some (owner, s))
    (idle : s ≠ .setting) (active : s.isOver = false) : ∀ x ∈ sets, x.1 ≠ id := by
  rintro x mem rfl
  obtain ⟨owner', s', hround, rfl | rfl⟩ := h.exists_waiting x mem
  · cases found.symm.trans hround
    exact idle rfl
  · cases found.symm.trans hround
    cases active

theorem Pends.ne_of_fresh (h : d.Pends sets) (fresh : d.round id = none) :
    ∀ x ∈ sets, x.1 ≠ id := by
  rintro x mem rfl
  obtain ⟨owner, s, hround, -⟩ := h.exists_waiting x mem
  cases fresh.symm.trans hround

theorem sets_call_none : (d.call (id, none)).sets = d.sets := by
  rw [Duty.sets, call, List.filterMap_append]
  exact List.append_nil _

theorem sets_call_some (n : Int32) : (d.call (id, some n)).sets = d.sets ++ [(id, n)] := by
  rw [Duty.sets, call, List.filterMap_append]
  rfl

theorem Act.pends (act : d.Act id answered d') (h : d.Pends (sets ++ d.sets))
    (unanswered : ∀ x ∈ sets ++ d.sets, answered ≠ some x.1) : d'.Pends (sets ++ d'.sets) := by
  cases act with
  | rests => exact h
  | counts gathering =>
    rw [sets_call_none]
    exact ⟨h.nodup, h.exists_waiting⟩
  | aims gathering =>
    rw [sets_call_none]
    exact h.of_ne (h.ne_of_round gathering nofun rfl) fun j other => round_put_of_ne other
  | @sets owner reading n =>
    have other := h.ne_of_round reading nofun rfl
    have before : (d.put id owner .setting).Pends (sets ++ d.sets) :=
      h.of_ne other fun j other => round_put_of_ne other
    rw [sets_call_some, ← List.append_assoc]
    refine ⟨?_, fun x mem => ?_⟩
    · rw [List.map_append]
      refine List.Nodup.append before.nodup (List.nodup_singleton id) ?_
      refine List.disjoint_singleton.2 fun mem => ?_
      obtain ⟨x, mem, same⟩ := List.mem_map.1 mem
      exact other x mem same
    · rcases List.mem_append.1 mem with mem | mem
      · exact before.exists_waiting x mem
      · obtain rfl := List.mem_singleton.1 mem
        exact ⟨owner, .setting, round_put_self, .inl rfl⟩
  | @ends owner s found active due =>
    have hsets : ((d.put id owner .ended).release id owner).sets = d.sets := by
      rw [Duty.sets, calls_release]
      rfl
    rw [hsets]
    have others : ∀ x ∈ sets ++ d.sets, x.1 ≠ id := by
      intro x mem same
      obtain ⟨owner', s', hround, hs⟩ := h.exists_waiting x mem
      rw [same] at hround
      cases found.symm.trans hround
      rcases hs with rfl | rfl
      · exact unanswered x mem (same.symm ▸ due rfl)
      · cases active
    refine h.of_ne others fun j other => ?_
    rw [round_release]
    exact round_put_of_ne other

theorem Step.pends (step : d.Step answered d') (h : d.Pends (sets ++ d.sets))
    (unanswered : ∀ x ∈ sets ++ d.sets, answered ≠ some x.1) : d'.Pends (sets ++ d'.sets) := by
  cases step with
  | acts act => exact act.pends h unanswered
  | @begins l id _ waiting fresh act =>
    have before : ((d.turn l (.evaluating id)).put id (some l) .gathering).Pends (sets ++ d.sets) :=
      h.of_ne (h.ne_of_fresh fresh) fun j other => round_put_of_ne other
    exact act.pends before unanswered
  | @serves id _ fresh act =>
    have before : (d.put id none .gathering).Pends (sets ++ d.sets) :=
      h.of_ne (h.ne_of_fresh fresh) fun j other => round_put_of_ne other
    exact act.pends before unanswered
  | @givesUp l id evaluating =>
    refine ⟨h.nodup, fun x mem => ?_⟩
    obtain ⟨owner, s, hround, hs⟩ := h.exists_waiting x mem
    by_cases same : x.1 = id
    · rw [same]
      exact ⟨some l, .abandoned, round_put_self, .inr rfl⟩
    · exact ⟨owner, s, (round_put_of_ne same).trans hround, hs⟩
  | _ => exact ⟨h.nodup, h.exists_waiting⟩

/-- At most one count that was set for a loop is still to be answered. -/
theorem Sound.length_le_one (h : d.Sound) (pends : d.Pends sets) (l : Nat) :
    (sets.filter fun x => d.owner x.1 = some l).length ≤ 1 := by
  have own : ∀ x ∈ sets.filter (fun x => d.owner x.1 = some l),
      d.loop l = some (.evaluating x.1) ∨ d.round x.1 = some (some l, .abandoned) := by
    intro x mem
    obtain ⟨mem, own⟩ := List.mem_filter.1 mem
    obtain ⟨owner, s, hround, hs⟩ := pends.exists_waiting x mem
    obtain rfl : owner = some l := (owner_of_round hround).symm.trans (of_decide_eq_true own)
    rcases hs with rfl | rfl
    · exact .inl (h.evaluating_of_active x.1 l .setting hround rfl)
    · exact .inr hround
  have pending := pends.sublist (List.filter_sublist (p := fun x => d.owner x.1 = some l))
  generalize sets.filter (fun x => d.owner x.1 = some l) = mine at own pending ⊢
  rcases mine with _ | ⟨x, _ | ⟨y, rest⟩⟩
  · exact Nat.zero_le 1
  · exact Nat.le_refl 1
  · exfalso
    have hx := own x List.mem_cons_self
    have hy := own y (List.mem_cons_of_mem x List.mem_cons_self)
    have distinct : x.1 ≠ y.1 := by
      have nodup := pending.nodup
      rw [List.map_cons, List.map_cons, List.nodup_cons] at nodup
      exact fun same => nodup.1 (same ▸ List.mem_cons_self)
    rcases hx with hx | hx
    · rcases hy with hy | hy
      · exact distinct (EvaluationLoopPhase.evaluating.inj (Option.some.inj (hx.symm.trans hy)))
      · cases hx.symm.trans (h.ended_of_abandoned y.1 l hy)
    · rcases hy with hy | hy
      · cases hy.symm.trans (h.ended_of_abandoned x.1 l hx)
      · exact distinct (h.eq_of_abandoned x.1 y.1 l hx hy)

end Duty

end PredictiveScaling
