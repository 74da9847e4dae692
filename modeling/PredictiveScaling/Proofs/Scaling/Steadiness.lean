import PredictiveScaling.Proofs.Scaling.Bounds
import Mathlib.Order.Basic

/-!
# A steady target

While its target stays the same and nobody else changes the count, a scaler changes it once
at most. A count that was set for a target is level with it, and whatever is level with the
target is left alone by every later attempt at it.
-/
namespace PredictiveScaling.Scaler

variable {s : Scaler} {x : Call} {xs : List Call} {target held : Int32} {d : ScaleDown}

namespace Entry

/-- The entry has set a count, and that has succeeded. -/
def Sets (e : Entry) : Prop :=
  ∃ n, e.attempt.issued = some n ∧ e.call.answers.set = .ok ()

/-- The entry leaves the count alone. It tells the count that it has read, or why it could
not read it. -/
structure Rests (e : Entry) : Prop where
  issued : e.attempt.issued = none
  unchanged : ∀ current, e.call.answers.count = .ok current →
    e.attempt.result = .ok (.unchanged current)
  unread : ∀ cause, e.call.answers.count = .error cause →
    e.attempt.result = .error (.client cause)

theorem heldAfter_of_set {e : Entry} {n : Int32} (issued : e.attempt.issued = some n)
    (set : e.call.answers.set = .ok ()) (held : Int32) : e.heldAfter held = n := by
  rw [heldAfter, issued, set]

theorem heldAfter_of_rests {e : Entry} (h : e.Rests) (held : Int32) : e.heldAfter held = held := by
  simp only [heldAfter, h.issued]

theorem Rests.not_sets {e : Entry} (h : e.Rests) : ¬ e.Sets := by
  rintro ⟨n, issued, -⟩
  rw [h.issued] at issued
  cases issued

end Entry

/-! ## One attempt -/

/-- An attempt at a target that the count is level with leaves the count alone. -/
theorem rests_of_level (hx : x.command = .applyTarget target d)
    (read : ∀ current, x.answers.count = .ok current → current = held)
    (level : s.config.Level held target) : (⟨x, (s.perform x).2⟩ : Entry).Rests := by
  cases hr : x.answers.count with
  | error cause =>
    rw [perform_of_count_error hr]
    refine ⟨rfl, ?_, ?_⟩
    · intro current h
      cases hr.symm.trans h
    · intro cause' h
      cases hr.symm.trans h
      rfl
  | ok current =>
    obtain rfl := read current hr
    rw [perform_applyTarget hx hr, decide_of_level s x.now d level]
    refine ⟨rfl, ?_, ?_⟩
    · intro current' h
      cases hr.symm.trans h
      rfl
    · intro cause h
      cases hr.symm.trans h

/-- The count that an attempt has set is level with its target. -/
theorem level_of_sets (held : Int32) (hx : x.command = .applyTarget target d)
    (h : (⟨x, (s.perform x).2⟩ : Entry).Sets) :
    s.config.Level ((⟨x, (s.perform x).2⟩ : Entry).heldAfter held) target := by
  obtain ⟨n, issued, set⟩ := h
  rw [Entry.heldAfter_of_set issued set]
  obtain ⟨current, hr, -⟩ := moves_of_issued issued
  change (s.perform x).2.issued = some n at issued
  rw [perform_applyTarget hx hr] at issued
  obtain ⟨a, ha⟩ := eq_set_of_issued issued
  exact level_of_set ha

/-! ## Histories -/

/-- Once the count is level with the target, all attempts leave it alone. -/
theorem rests_of_mem_history {e : Entry} (steady : ∀ x ∈ xs, x.command = .applyTarget target d)
    (own : OwnCount held (s.history xs)) (level : s.config.Level held target)
    (he : e ∈ s.history xs) : e.Rests := by
  induction xs generalizing s with
  | nil => cases he
  | cons x xs ih =>
    obtain ⟨read, own⟩ := own
    have first := rests_of_level (s := s) (steady x List.mem_cons_self) read level
    rw [history_cons, List.mem_cons] at he
    rcases he with rfl | he
    · exact first
    · rw [Entry.heldAfter_of_rests first] at own
      rw [← config_perform s x] at level
      exact ih (fun y hy => steady y (List.mem_cons_of_mem x hy)) own level he

/-- After an attempt that has set a count, all attempts leave it alone. -/
theorem rests_of_sets {i j : ℕ} {e e' : Entry}
    (steady : ∀ x ∈ xs, x.command = .applyTarget target d)
    (own : OwnCount held (s.history xs)) (hi : (s.history xs)[i]? = some e)
    (hj : (s.history xs)[j]? = some e') (hij : i < j) (sets : e.Sets) : e'.Rests := by
  induction xs generalizing s held i j with
  | nil => cases hi
  | cons x xs ih =>
    obtain ⟨j, rfl⟩ : ∃ j', j = j' + 1 := ⟨j - 1, by omega⟩
    obtain ⟨-, own⟩ := own
    have later := fun y hy => steady y (List.mem_cons_of_mem x hy)
    rw [history_cons, List.getElem?_cons_succ] at hj
    cases i with
    | zero =>
      rw [history_cons, List.getElem?_cons_zero, Option.some.injEq] at hi
      subst hi
      have level := level_of_sets held (steady x List.mem_cons_self) sets
      rw [← config_perform s x] at level
      exact rests_of_mem_history later own level (List.mem_of_getElem? hj)
    | succ i =>
      rw [history_cons, List.getElem?_cons_succ] at hi
      exact ih later own hi hj (by omega)

/-- **A steady target is reached at once.** Take attempts at one target with the same
settings, at any times and with whatever answers, where each read that succeeds finds the
count that the scaler's own sets have left. No two sets succeed. After one that does, nothing
is set any more, and every attempt tells that the count is unchanged, unless it cannot read
it. -/
theorem sets_once (s : Scaler) (steady : ∀ x ∈ xs, x.command = .applyTarget target d)
    (own : OwnCount held (s.history xs)) :
    (∀ (i j : ℕ) (e e' : Entry), (s.history xs)[i]? = some e → (s.history xs)[j]? = some e' →
      e.Sets → e'.Sets → i = j) ∧
    (∀ (i j : ℕ) (e e' : Entry), (s.history xs)[i]? = some e → (s.history xs)[j]? = some e' →
      i < j → e.Sets → e'.Rests) := by
  constructor
  · intro i j e e' hi hj sets sets'
    rcases Nat.lt_trichotomy i j with hlt | rfl | hlt
    · exact absurd sets' (rests_of_sets steady own hi hj hlt sets).not_sets
    · rfl
    · exact absurd sets (rests_of_sets steady own hj hi hlt sets').not_sets
  · intro i j e e' hi hj hij sets
    exact rests_of_sets steady own hi hj hij sets

/-- Three attempts at four replicas that are each to be held back for fifty milliseconds. -/
def threeAttempts : List Call :=
  [⟨0, .applyTarget 4 ⟨0.0, .ofMillis 50⟩, ⟨.ok 10, .ok ()⟩⟩,
    ⟨60, .applyTarget 4 ⟨0.0, .ofMillis 50⟩, ⟨.ok 10, .ok ()⟩⟩,
    ⟨70, .applyTarget 4 ⟨0.0, .ofMillis 50⟩, ⟨.ok 4, .ok ()⟩⟩]

/-- The second one sets the count, and the third one leaves it. -/
theorem sets_once_threeAttempts :
    (∀ x ∈ threeAttempts, x.command = .applyTarget 4 ⟨0.0, .ofMillis 50⟩) ∧
      OwnCount 10 ((Scaler.new default).history threeAttempts) ∧
      ∃ e e', ((Scaler.new default).history threeAttempts)[1]? = some e ∧
        ((Scaler.new default).history threeAttempts)[2]? = some e' ∧ e.Sets ∧ e'.Rests := by
  have steady : ∀ x ∈ threeAttempts, x.command = .applyTarget 4 ⟨0.0, .ofMillis 50⟩ := by
    simp [threeAttempts]
  have own : OwnCount 10 ((Scaler.new default).history threeAttempts) := by
    refine ⟨?_, ?_, ?_, trivial⟩
    · rintro current h
      cases h
      rfl
    · rintro current h
      cases h
      decide +kernel
    · rintro current h
      cases h
      decide +kernel
  obtain ⟨e, h1⟩ : ∃ e, ((Scaler.new default).history threeAttempts)[1]? = some e := ⟨_, rfl⟩
  obtain ⟨e', h2⟩ : ∃ e, ((Scaler.new default).history threeAttempts)[2]? = some e := ⟨_, rfl⟩
  have sets : e.Sets := by
    cases h1
    exact ⟨4, by decide +kernel, rfl⟩
  exact ⟨steady, own, e, e', h1, h2, sets,
    (sets_once (.new default) steady own).2 1 2 e e' h1 h2 (by decide) sets⟩

/-- Two attempts at six replicas; the second one cannot read the count. -/
def unreadAfterSet : List Call :=
  [⟨0, .applyTarget 6 ⟨0.0, .zero⟩, ⟨.ok 2, .ok ()⟩⟩,
    ⟨1, .applyTarget 6 ⟨0.0, .zero⟩, ⟨.error (.request "boom"), .ok ()⟩⟩]

/-- An attempt after the set does not tell that the count is unchanged if it cannot read it. -/
theorem not_unchanged_if_unread :
    ¬ ∀ config : ScalerConfig, 0 ≤ config.minReplicas →
      config.minReplicas ≤ config.maxReplicas →
      ∀ (held target : Int32) (d : ScaleDown) (xs : List Call),
        (∀ x ∈ xs, x.command = .applyTarget target d) →
        OwnCount held ((Scaler.new config).history xs) →
        ∀ (i j : ℕ) (e e' : Entry), ((Scaler.new config).history xs)[i]? = some e →
          ((Scaler.new config).history xs)[j]? = some e' → i < j → e.Sets →
          ∃ n, e'.attempt.result = .ok (.unchanged n) := by
  intro h
  have own : OwnCount 2 ((Scaler.new default).history unreadAfterSet) := by
    refine ⟨?_, ?_, trivial⟩
    · rintro current h
      cases h
      rfl
    · rintro current h
      cases h
  obtain ⟨n, hn⟩ := h default (by decide) (by decide) 2 6 ⟨0.0, .zero⟩ unreadAfterSet
    (by simp [unreadAfterSet]) own 0 1 _ _ rfl rfl (by decide) ⟨6, rfl, rfl⟩
  cases hn

end PredictiveScaling.Scaler
