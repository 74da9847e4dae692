import PredictiveScaling.Proofs.Scaling.History
import Mathlib.Order.Basic

/-!
# The stabilization window

A scale-down is only issued when the window is old enough. The window is one moment, so
what it says about the calls since then has to be shown: while it stays open every attempt
at a target that has read the count found a large enough drop and was deferred. Commands
to go up or down do not touch it, nor does an attempt that cannot read the count.
-/
namespace PredictiveScaling.Scaler

variable {s : Scaler} {x : Call} {xs : List Call}

namespace Entry

/-- The entry is an attempt at a target that has read the count. -/
def SeesCount (e : Entry) : Prop :=
  ∃ target d current, e.call.command = .applyTarget target d ∧ e.call.answers.count = .ok current

/-- If the entry is an attempt at a target that has read the count, the target was below it
by enough. -/
def FoundDrop (config : ScalerConfig) (e : Entry) : Prop :=
  ∀ target d current, e.call.command = .applyTarget target d →
    e.call.answers.count = .ok current → config.Drops d.threshold current target

/-- If the entry is an attempt at a target, it sets nothing, and unless it fails it is
deferred. -/
def Waited (e : Entry) : Prop :=
  ∀ target d, e.call.command = .applyTarget target d →
    e.attempt.issued = none ∧
      ∀ action, e.attempt.result = .ok action → ∃ t c, action = .deferred t c

/-- The entry sets a count below the one that it has read. -/
def Lowers (e : Entry) : Prop :=
  ∃ current n, e.call.answers.count = .ok current ∧ e.attempt.issued = some n ∧ n < current

theorem foundDrop_of_count_error {config : ScalerConfig} {e : Entry} {cause : SourceError}
    (h : e.call.answers.count = .error cause) : e.FoundDrop config := by
  intro _ _ _ _ hr
  rw [h] at hr
  cases hr

theorem foundDrop_of_drops {config : ScalerConfig} {e : Entry} {target current : Int32}
    {d : ScaleDown} (hc : e.call.command = .applyTarget target d)
    (hr : e.call.answers.count = .ok current) (h : config.Drops d.threshold current target) :
    e.FoundDrop config := by
  intro target' d' current' hc' hr'
  rw [hc, Command.applyTarget.injEq] at hc'
  rw [hr, Except.ok.injEq] at hr'
  obtain ⟨⟨rfl, rfl⟩, rfl⟩ := And.intro hc' hr'
  exact h

end Entry

/-! ## One call -/

/-- Where the window is open after a call, the call has not ended it: it was open before, or
the call is an attempt that opens it. -/
theorem window_perform {t : ℕ} (h : (s.perform x).1.belowSince = some t) :
    (⟨x, (s.perform x).2⟩ : Entry).FoundDrop s.config ∧
      (⟨x, (s.perform x).2⟩ : Entry).Waited ∧
      (s.belowSince = some t ∨
        t = x.now ∧ (⟨x, (s.perform x).2⟩ : Entry).SeesCount) := by
  cases hr : x.answers.count with
  | error cause =>
    rw [perform_of_count_error hr] at h ⊢
    refine ⟨Entry.foundDrop_of_count_error hr, ?_, .inl h⟩
    intro _ _ _
    exact ⟨rfl, fun action ha => nomatch ha⟩
  | ok current =>
    cases hc : x.command with
    | upTo n =>
      rw [perform_upTo hc hr] at h ⊢
      exact ⟨fun _ _ _ hx => by simp [hc] at hx, fun _ _ hx => by simp [hc] at hx, .inl h⟩
    | downTo n =>
      rw [perform_downTo hc hr] at h ⊢
      exact ⟨fun _ _ _ hx => by simp [hc] at hx, fun _ _ hx => by simp [hc] at hx, .inl h⟩
    | applyTarget target d =>
      rw [perform_applyTarget hc hr] at h ⊢
      have course := course_decide s x.now d current target
      generalize s.decide x.now d current target = r at h course ⊢
      obtain ⟨after, decision⟩ := r
      cases course with
      -- all courses but one clear the window
      | raised | refused | level | slight | lowered => simp at h
      | held drops early =>
        refine ⟨Entry.foundDrop_of_drops hc hr drops, ?_, ?_⟩
        · intro _ _ _
          refine ⟨rfl, fun action ha => ?_⟩
          cases ha
          exact ⟨_, _, rfl⟩
        · cases hw : s.belowSince with
          | some t' => exact .inl (by simpa [hw] using h)
          | none =>
            refine .inr ⟨?_, target, d, current, hc, hr⟩
            simpa [hw] using h.symm

/-- A scale-down comes of a large enough drop and of a window that is old enough. -/
theorem due_of_lowers {target : Int32} {d : ScaleDown} (hc : x.command = .applyTarget target d)
    (hl : (⟨x, (s.perform x).2⟩ : Entry).Lowers) :
    (⟨x, (s.perform x).2⟩ : Entry).FoundDrop s.config ∧
      (⟨x, (s.perform x).2⟩ : Entry).SeesCount ∧
      d.duration.millis ≤ x.now - s.belowSince.getD x.now := by
  obtain ⟨current, n, hr, hn, below⟩ := hl
  change x.answers.count = .ok current at hr
  change (s.perform x).2.issued = some n at hn
  rw [perform_applyTarget hc hr] at hn ⊢
  have course := course_decide s x.now d current target
  generalize s.decide x.now d current target = r at hn course ⊢
  obtain ⟨after, decision⟩ := r
  cases course with
  | refused | level | slight | held => simp at hn
  | raised above _ =>
    obtain rfl : target = n := by simpa using hn
    exact absurd above (by grind)
  | lowered drops due =>
    exact ⟨Entry.foundDrop_of_drops hc hr drops, ⟨target, d, current, hc, hr⟩, due⟩

/-! ## Histories -/

/-- From position `i` to position `j` of a history all attempts found a large enough drop,
and those before `j` were held back. -/
def HeldBelow (config : ScalerConfig) (es : List Entry) (i j : ℕ) : Prop :=
  ∀ k e, i ≤ k → k ≤ j → es[k]? = some e → e.FoundDrop config ∧ (k < j → e.Waited)

theorem HeldBelow.single {config : ScalerConfig} {e : Entry} {es : List Entry}
    (h : e.FoundDrop config) : HeldBelow config (e :: es) 0 0 := by
  intro k z _ hk hz
  obtain rfl : k = 0 := by omega
  rw [List.getElem?_cons_zero, Option.some.injEq] at hz
  exact ⟨hz ▸ h, fun hlt => absurd hlt (by omega)⟩

theorem HeldBelow.cons {config : ScalerConfig} {e : Entry} {es : List Entry} {i j : ℕ}
    (h : HeldBelow config es i j) : HeldBelow config (e :: es) (i + 1) (j + 1) := by
  intro k z hi hj hz
  obtain ⟨k, rfl⟩ : ∃ k', k = k' + 1 := ⟨k - 1, by omega⟩
  rw [List.getElem?_cons_succ] at hz
  obtain ⟨found, waited⟩ := h k z (by omega) (by omega) hz
  exact ⟨found, fun hlt => waited (by omega)⟩

theorem HeldBelow.cons_zero {config : ScalerConfig} {e : Entry} {es : List Entry} {j : ℕ}
    (h : HeldBelow config es 0 j) (found : e.FoundDrop config) (waited : e.Waited) :
    HeldBelow config (e :: es) 0 (j + 1) := by
  intro k z _ hj hz
  cases k with
  | zero =>
    rw [List.getElem?_cons_zero, Option.some.injEq] at hz
    exact hz ▸ ⟨found, fun _ => waited⟩
  | succ k => exact h.cons (k + 1) z (by omega) hj hz

/-- The call that is scaled down at position `j` has waited for `wait` since position `i`. -/
def WaitedSince (config : ScalerConfig) (es : List Entry) (e : Entry) (wait i j : ℕ) : Prop :=
  HeldBelow config es i j ∧
    ∃ e₀, es[i]? = some e₀ ∧ e₀.SeesCount ∧ e₀.call.now + wait ≤ e.call.now

/-- Going back from a scale-down, all attempts were held back until the one that opened the
window. That one may lie before the calls that are looked at: then the window was open
already, and long enough. -/
theorem open_or_exists_waitedSince {j : ℕ} {e : Entry} {target : Int32} {d : ScaleDown}
    (he : (s.history xs)[j]? = some e) (hc : e.call.command = .applyTarget target d)
    (hl : e.Lowers) :
    (∃ t, s.belowSince = some t ∧ t + d.duration.millis ≤ e.call.now ∧
      HeldBelow s.config (s.history xs) 0 j) ∨
    ∃ i ≤ j, WaitedSince s.config (s.history xs) e d.duration.millis i j := by
  induction xs generalizing s j with
  | nil => simp at he
  | cons x xs ih =>
    rw [history_cons] at he ⊢
    cases j with
    | zero =>
      rw [List.getElem?_cons_zero, Option.some.injEq] at he
      subst he
      obtain ⟨found, sees, due⟩ := due_of_lowers (x := x) hc hl
      by_cases hzero : d.duration.millis = 0
      · exact .inr ⟨0, Nat.le_refl 0, .single found, _, rfl, sees, by simp [hzero]⟩
      · cases hw : s.belowSince with
        | none => rw [hw, Option.getD_none, Nat.sub_self] at due; omega
        | some t =>
          rw [hw, Option.getD_some] at due
          refine .inl ⟨t, rfl, ?_, .single found⟩
          change t + d.duration.millis ≤ x.now
          omega
    | succ j =>
      rw [List.getElem?_cons_succ] at he
      rcases ih he with ⟨t, hw, hlong, held⟩ | ⟨i, hij, held, e₀, he₀, sees, hlong⟩
      · -- the window was open after the first call, so that call has not ended it
        rw [config_perform] at held
        obtain ⟨found, waited, hw | ⟨rfl, sees⟩⟩ := window_perform hw
        · exact .inl ⟨t, hw, hlong, held.cons_zero found waited⟩
        · exact .inr ⟨0, Nat.zero_le _, held.cons_zero found waited, _, rfl, sees, hlong⟩
      · rw [config_perform] at held
        exact .inr ⟨i + 1, by omega, held.cons, e₀, by simpa using he₀, sees, hlong⟩

/-- **No scale-down is premature.** If a call issues a scale-down, there is an attempt at
least the duration of its settings earlier from which on every attempt that read the count
found the target, raised to the minimum, below it by no less than the threshold of that
attempt, and was deferred unless it is the last one. -/
theorem exists_waitedSince_of_lowers (config : ScalerConfig) (xs : List Call) {j : ℕ}
    {e : Entry} {target : Int32} {d : ScaleDown}
    (he : ((Scaler.new config).history xs)[j]? = some e)
    (hc : e.call.command = .applyTarget target d) (hl : e.Lowers) :
    ∃ i ≤ j, WaitedSince config ((Scaler.new config).history xs) e d.duration.millis i j := by
  rcases open_or_exists_waitedSince he hc hl with ⟨t, hw, -⟩ | h
  · cases hw
  · exact h

/-- Two attempts at four replicas, each to be held back for fifty milliseconds, with a
command to go up between them. -/
def twoAttempts : List Call :=
  [⟨0, .applyTarget 4 ⟨0.0, .ofMillis 50⟩, ⟨.ok 10, .ok ()⟩⟩,
    ⟨20, .upTo 9, ⟨.ok 8, .ok ()⟩⟩,
    ⟨60, .applyTarget 4 ⟨0.0, .ofMillis 50⟩, ⟨.ok 12, .ok ()⟩⟩]

/-- The second attempt scales down. -/
theorem exists_waitedSince_of_lowers_at_sixty :
    ∃ e, ((Scaler.new default).history twoAttempts)[2]? = some e ∧ e.Lowers ∧
      ∃ i ≤ 2, WaitedSince default ((Scaler.new default).history twoAttempts) e 50 i 2 := by
  have h2 : 2 < ((Scaler.new default).history twoAttempts).length := by simp [twoAttempts]
  have he := List.getElem?_eq_getElem h2
  have hissued : (((Scaler.new default).history twoAttempts)[2]?.bind
      fun e => e.attempt.issued) = some 4 := by decide +kernel
  rw [he, Option.bind_some] at hissued
  have hl : (((Scaler.new default).history twoAttempts)[2]).Lowers :=
    ⟨12, 4, rfl, hissued, by decide⟩
  exact ⟨_, he, hl, exists_waitedSince_of_lowers default twoAttempts he rfl hl⟩

end PredictiveScaling.Scaler
