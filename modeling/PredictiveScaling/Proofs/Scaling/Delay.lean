import PredictiveScaling.Proofs.Scaling.Action
import PredictiveScaling.Proofs.Scaling.Window

/-!
# When a scale-down is due

A target that stays below the count is followed once it has been there for long enough and
the drop is large enough. But the window is only kept while the drop is large: an attempt
that finds a slight drop, with the target still below the count, begins the wait anew. So a
large drop is followed if and only if no slight one was found since some attempt that lies
the whole delay back.
-/
namespace PredictiveScaling.Scaler

variable {s : Scaler} {x : Call} {xs : List Call} {d : ScaleDown}

/-- The call is an attempt at some target with these settings, and the orchestrator does
what it is asked for. -/
def Call.Attempts (d : ScaleDown) (x : Call) : Prop :=
  ∃ target current, x.command = .applyTarget target d ∧ x.answers = ⟨.ok current, .ok ()⟩

namespace Entry

/-- If the entry is an attempt at a target that has read the count, the target was below
it. -/
def FoundBelow (config : ScalerConfig) (e : Entry) : Prop :=
  ∀ target d current, e.call.command = .applyTarget target d →
    e.call.answers.count = .ok current → config.floored target < current

/-- The entry is an attempt that has found the target below the count, but by too little. -/
def FoundSlight (config : ScalerConfig) (e : Entry) : Prop :=
  ∃ target d current, e.call.command = .applyTarget target d ∧
    e.call.answers.count = .ok current ∧ config.floored target < current ∧
    ScalerConfig.relativeDrop current (config.floored target) < d.threshold

/-- A drop is large enough where the target is below the count and the drop not slight. -/
theorem foundDrop_iff {config : ScalerConfig} {e : Entry} :
    e.FoundDrop config ↔ e.FoundBelow config ∧ ¬ e.FoundSlight config := by
  constructor
  · intro h
    refine ⟨fun target d current hc hr => (h target d current hc hr).1, ?_⟩
    rintro ⟨target, d, current, hc, hr, -, small⟩
    exact (h target d current hc hr).2 small
  · rintro ⟨below, large⟩ target d current hc hr
    have hbelow := below target d current hc hr
    exact ⟨hbelow, fun small => large ⟨target, d, current, hc, hr, hbelow, small⟩⟩

/-- The entry has scaled down. -/
def ScaledDown (e : Entry) : Prop :=
  ∃ current n, e.attempt.result = .ok (.scaledDown current n)

end Entry

/-! ## One attempt -/

/-- What an attempt comes to that finds a large enough drop. -/
theorem exists_perform_of_foundDrop (hx : x.Attempts d)
    (drop : (⟨x, (s.perform x).2⟩ : Entry).FoundDrop s.config) :
    ∃ current n, s.perform x =
      if x.now - s.belowSince.getD x.now < d.duration.millis then
        ({ s with belowSince := some (s.belowSince.getD x.now) },
          ⟨.ok (.deferred n current), none⟩)
      else (s.resetWindow, ⟨.ok (.scaledDown current n), some n⟩) := by
  obtain ⟨target, current, hc, ha⟩ := hx
  have hr : x.answers.count = .ok current := by rw [ha]
  exact ⟨current, _, perform_of_drops hc ha (drop target d current hc hr)⟩

/-- An attempt that scales down has set a count below the one that it has read. -/
theorem lowers_of_scaledDown (h : (⟨x, (s.perform x).2⟩ : Entry).ScaledDown) :
    (⟨x, (s.perform x).2⟩ : Entry).Lowers := by
  obtain ⟨current, n, h⟩ := h
  obtain ⟨hr, below, issued⟩ := issued_of_scaledDown h
  exact ⟨current, n, hr, issued, below⟩

/-! ## Histories -/

/-- The window was not opened later than any of the calls to come. -/
def OpenedBefore (s : Scaler) (xs : List Call) : Prop :=
  ∀ t, s.belowSince = some t → ∀ x ∈ xs, t ≤ x.now

theorem openedBefore_new (config : ScalerConfig) (xs : List Call) :
    (Scaler.new config).OpenedBefore xs := by
  intro t h
  cases h

theorem OpenedBefore.perform (h : s.OpenedBefore (x :: xs)) (clock : ∀ y ∈ xs, x.now ≤ y.now) :
    (s.perform x).1.OpenedBefore xs := by
  intro t ht y hy
  obtain ⟨-, -, before | ⟨rfl, -⟩⟩ := window_perform ht
  · exact h t before y (List.mem_cons_of_mem x hy)
  · exact clock y hy

/-- Where the window is old enough at an attempt and has been kept until then, the attempt
scales down. -/
theorem scaledDown_of_since {t j : ℕ} {e : Entry} (attempts : ∀ y ∈ x :: xs, y.Attempts d)
    (since : s.belowSince.getD x.now ≤ t) (hj : (s.history (x :: xs))[j]? = some e)
    (old : t + d.duration.millis ≤ e.call.now)
    (drops : ∀ m z, m ≤ j → (s.history (x :: xs))[m]? = some z →
      z.FoundDrop s.config ∧ (m < j → z.attempt.issued = none)) :
    e.ScaledDown := by
  induction j generalizing s x xs with
  | zero =>
    rw [history_cons, List.getElem?_cons_zero, Option.some.injEq] at hj
    subst hj
    obtain ⟨drop, -⟩ := drops 0 _ (Nat.le_refl 0) rfl
    obtain ⟨current, n, h⟩ := exists_perform_of_foundDrop (attempts x List.mem_cons_self) drop
    have late : ¬ x.now - s.belowSince.getD x.now < d.duration.millis := by
      change t + d.duration.millis ≤ x.now at old
      omega
    exact ⟨current, n, by rw [h, if_neg late]⟩
  | succ j ih =>
    rw [history_cons, List.getElem?_cons_succ] at hj
    -- the first attempt has set nothing, so it was held back and has kept the window
    obtain ⟨drop, idle⟩ := drops 0 _ (Nat.zero_le _) rfl
    obtain ⟨current, n, h⟩ := exists_perform_of_foundDrop (attempts x List.mem_cons_self) drop
    have early : x.now - s.belowSince.getD x.now < d.duration.millis := by
      by_contra late
      rw [if_neg late] at h
      have hissued := idle (Nat.succ_pos j)
      rw [h] at hissued
      cases hissued
    have kept : (s.perform x).1.belowSince = some (s.belowSince.getD x.now) := by
      rw [h, if_pos early]
    cases xs with
    | nil => cases hj
    | cons y ys =>
      refine ih (fun z hz => attempts z (List.mem_cons_of_mem x hz)) ?_ hj ?_
      · rw [kept, Option.getD_some]
        exact since
      · intro m z hm hz
        rw [config_perform]
        obtain ⟨drop, idle⟩ := drops (m + 1) z (by omega) (by rwa [history_cons])
        exact ⟨drop, fun hlt => idle (by omega)⟩

/-- The same where the wait begins with some attempt of the history. -/
theorem scaledDown_of_drops {k j : ℕ} {e₁ e : Entry} (attempts : ∀ y ∈ xs, y.Attempts d)
    (clock : xs.Pairwise fun x y => x.now ≤ y.now) (opened : s.OpenedBefore xs)
    (hk : (s.history xs)[k]? = some e₁) (hkj : k ≤ j) (hj : (s.history xs)[j]? = some e)
    (old : e₁.call.now + d.duration.millis ≤ e.call.now)
    (drops : ∀ m z, k ≤ m → m ≤ j → (s.history xs)[m]? = some z →
      z.FoundDrop s.config ∧ (m < j → z.attempt.issued = none)) :
    e.ScaledDown := by
  induction xs generalizing s k j with
  | nil => cases hk
  | cons x xs ih =>
    cases k with
    | zero =>
      rw [history_cons, List.getElem?_cons_zero, Option.some.injEq] at hk
      subst hk
      have since : s.belowSince.getD x.now ≤ x.now := by
        cases hw : s.belowSince with
        | none => exact Nat.le_refl x.now
        | some t => exact opened t hw x List.mem_cons_self
      exact scaledDown_of_since attempts since hj old fun m z => drops m z (Nat.zero_le m)
    | succ k =>
      obtain ⟨j, rfl⟩ : ∃ j', j = j' + 1 := ⟨j - 1, by omega⟩
      rw [history_cons, List.getElem?_cons_succ] at hk hj
      obtain ⟨first, clock⟩ := List.pairwise_cons.1 clock
      refine ih (fun z hz => attempts z (List.mem_cons_of_mem x hz)) clock
        (opened.perform first) hk (by omega) hj ?_
      intro m z hkm hmj hz
      rw [config_perform]
      obtain ⟨drop, idle⟩ := drops (m + 1) z (by omega) (by omega) (by rwa [history_cons])
      exact ⟨drop, fun hlt => idle (by omega)⟩

/-- Going back from a scale-down, the drop was never slight until some attempt that lies the
whole delay back. -/
theorem exists_old_of_scaledDown {config : ScalerConfig} {j : ℕ} {e : Entry}
    (attempts : ∀ y ∈ xs, y.Attempts d) (hj : ((Scaler.new config).history xs)[j]? = some e)
    (down : e.ScaledDown) :
    ∃ k ≤ j, WaitedSince config ((Scaler.new config).history xs) e d.duration.millis k j := by
  obtain ⟨t, x, -, hx, rfl⟩ := exists_perform_of_mem_history (List.mem_of_getElem? hj)
  obtain ⟨target, current, hc, -⟩ := attempts x hx
  rcases open_or_exists_waitedSince hj hc (lowers_of_scaledDown down) with ⟨_, opened, -⟩ | h
  · cases opened
  · exact h

/-- **When a wait is over.** Take a run of attempts with the same settings, at times that do
not go back, where the orchestrator does what it is asked for. Let an attempt find a large
enough drop, and let all attempts before it, back to one that lies the whole delay in the
past, have found the target below the count and set nothing. The attempt scales down if and
only if no drop was slight since some attempt, not before the one that was named, that lies
the whole delay in the past; else it is deferred. -/
theorem scaledDown_iff_never_slight (config : ScalerConfig) {i j : ℕ} {e₀ e : Entry}
    (attempts : ∀ x ∈ xs, x.Attempts d) (clock : xs.Pairwise fun x y => x.now ≤ y.now)
    (hi : ((Scaler.new config).history xs)[i]? = some e₀) (hij : i ≤ j)
    (hj : ((Scaler.new config).history xs)[j]? = some e)
    (old : e₀.call.now + d.duration.millis ≤ e.call.now)
    (below : ∀ m z, i ≤ m → m < j → ((Scaler.new config).history xs)[m]? = some z →
      z.FoundBelow config ∧ z.attempt.issued = none)
    (drop : e.FoundDrop config) :
    (e.ScaledDown ↔ ∃ k e₁, i ≤ k ∧ k ≤ j ∧ ((Scaler.new config).history xs)[k]? = some e₁ ∧
      e₁.call.now + d.duration.millis ≤ e.call.now ∧
      ∀ m z, k ≤ m → m < j → ((Scaler.new config).history xs)[m]? = some z →
        ¬ z.FoundSlight config) ∧
    (e.ScaledDown ∨ ∃ n current, e.attempt.result = .ok (.deferred n current)) := by
  refine ⟨⟨?_, ?_⟩, ?_⟩
  · intro down
    obtain ⟨k, hkj, held, e₁, hk, -, hlong⟩ := exists_old_of_scaledDown attempts hj down
    have never : ∀ m z, k ≤ m → m < j → ((Scaler.new config).history xs)[m]? = some z →
        ¬ z.FoundSlight config := fun m z hkm hmj hz =>
      (Entry.foundDrop_iff.1 (held m z hkm (Nat.le_of_lt hmj) hz).1).2
    by_cases hik : i ≤ k
    · exact ⟨k, e₁, hik, hkj, hk, hlong, never⟩
    · exact ⟨i, e₀, Nat.le_refl i, hij, hi, old, fun m z him => never m z (by omega)⟩
  · rintro ⟨k, e₁, hik, hkj, hk, hlong, never⟩
    refine scaledDown_of_drops attempts clock (openedBefore_new config xs) hk hkj hj hlong ?_
    intro m z hkm hmj hz
    rcases Nat.lt_or_eq_of_le hmj with hlt | rfl
    · obtain ⟨hbelow, idle⟩ := below m z (by omega) hlt hz
      exact ⟨Entry.foundDrop_iff.2 ⟨hbelow, never m z hkm hlt hz⟩, fun _ => idle⟩
    · obtain rfl : e = z := by simpa [hj] using hz
      exact ⟨drop, fun hlt => absurd hlt (Nat.lt_irrefl m)⟩
  · obtain ⟨t, x, hconfig, hx, rfl⟩ := exists_perform_of_mem_history (List.mem_of_getElem? hj)
    obtain ⟨current, n, h⟩ := exists_perform_of_foundDrop (attempts x hx)
      (by rw [hconfig]; exact drop)
    by_cases early : x.now - t.belowSince.getD x.now < d.duration.millis
    · rw [if_pos early] at h
      exact .inr ⟨n, current, by rw [h]⟩
    · rw [if_neg early] at h
      exact .inl ⟨current, n, by rw [h]⟩

/-- A slight drop and, eighty milliseconds later, a large one, with a delay of fifty. -/
def slightThenLarge : List Call :=
  [⟨0, .applyTarget 9 ⟨0.3, .ofMillis 50⟩, ⟨.ok 10, .ok ()⟩⟩,
    ⟨80, .applyTarget 4 ⟨0.3, .ofMillis 50⟩, ⟨.ok 10, .ok ()⟩⟩]

/-- The target was below the count for longer than the delay, but the large drop is not
followed. -/
theorem scaledDown_iff_never_slight_slightThenLarge :
    ∃ e₀ e, ((Scaler.new default).history slightThenLarge)[0]? = some e₀ ∧
      ((Scaler.new default).history slightThenLarge)[1]? = some e ∧
      e₀.call.now + 50 ≤ e.call.now ∧
      (∀ m z, 0 ≤ m → m < 1 → ((Scaler.new default).history slightThenLarge)[m]? = some z →
        z.FoundBelow default ∧ z.attempt.issued = none) ∧
      e.FoundDrop default ∧
      (e.ScaledDown ↔ ∃ k e₁, 0 ≤ k ∧ k ≤ 1 ∧
        ((Scaler.new default).history slightThenLarge)[k]? = some e₁ ∧
        e₁.call.now + 50 ≤ e.call.now ∧
        ∀ m z, k ≤ m → m < 1 → ((Scaler.new default).history slightThenLarge)[m]? = some z →
          ¬ z.FoundSlight default) ∧
      ¬ e.ScaledDown := by
  have attempts : ∀ x ∈ slightThenLarge, x.Attempts ⟨0.3, .ofMillis 50⟩ := by
    simp only [slightThenLarge, List.mem_cons, List.not_mem_nil, or_false]
    rintro x (rfl | rfl)
    · exact ⟨9, 10, rfl, rfl⟩
    · exact ⟨4, 10, rfl, rfl⟩
  have clock : slightThenLarge.Pairwise fun x y => x.now ≤ y.now := by simp [slightThenLarge]
  have below : ∀ m z, 0 ≤ m → m < 1 →
      ((Scaler.new default).history slightThenLarge)[m]? = some z →
      z.FoundBelow default ∧ z.attempt.issued = none := by
    intro m z _ hm hz
    obtain rfl : m = 0 := by omega
    cases hz
    refine ⟨?_, by decide +kernel⟩
    intro target d current hc hr
    cases hc
    cases hr
    decide
  obtain ⟨e₀, h0⟩ : ∃ e, ((Scaler.new default).history slightThenLarge)[0]? = some e := ⟨_, rfl⟩
  obtain ⟨e, h1⟩ : ∃ e, ((Scaler.new default).history slightThenLarge)[1]? = some e := ⟨_, rfl⟩
  have old : e₀.call.now + 50 ≤ e.call.now := by
    cases h0
    cases h1
    decide
  have slight : e₀.FoundSlight default := by
    cases h0
    exact ⟨9, _, 10, rfl, rfl, by decide, by decide +kernel⟩
  have drop : e.FoundDrop default := by
    cases h1
    intro target d current hc hr
    cases hc
    cases hr
    exact ⟨by decide, by decide +kernel⟩
  obtain ⟨hiff, -⟩ := scaledDown_iff_never_slight default attempts clock h0 (Nat.zero_le 1) h1 old
    below drop
  refine ⟨e₀, e, h0, h1, old, below, drop, hiff, ?_⟩
  intro down
  obtain ⟨k, e₁, -, hk, hk₁, hlong, never⟩ := hiff.1 down
  rcases Nat.le_one_iff_eq_zero_or_eq_one.1 hk with rfl | rfl
  · exact never 0 e₀ (Nat.le_refl 0) Nat.zero_lt_one h0 slight
  · obtain rfl : e = e₁ := by simpa [h1] using hk₁
    change e.call.now + 50 ≤ e.call.now at hlong
    omega

end PredictiveScaling.Scaler
