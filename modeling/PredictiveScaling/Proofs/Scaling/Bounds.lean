import PredictiveScaling.Proofs.Scaling.History

/-!
# Bounds of the counts that are set

Going up is refused above the maximum only, and going down below the minimum only. So a
count that is set lies within the bounds on the side it moves to, and a count that starts
outside may be set outside: it moves towards the bounds but need not reach them. As long
as the count that is read lies within the bounds, what is set does too.
-/
namespace PredictiveScaling.Scaler

variable {s : Scaler} {x : Call}

/-- A count that is set moves the current one up to no more than the maximum, or down to no
less than the minimum. -/
def Moves (config : ScalerConfig) (current n : Int32) : Prop :=
  current < n ∧ n ≤ config.maxReplicas ∨ n < current ∧ config.minReplicas ≤ n

/-- A count lies within the bounds. -/
def Within (config : ScalerConfig) (n : Int32) : Prop :=
  config.minReplicas ≤ n ∧ n ≤ config.maxReplicas

theorem Moves.within {config : ScalerConfig} {current n : Int32} (h : Moves config current n)
    (hc : Within config current) : Within config n := by
  rw [Moves, Within] at *
  grind

/-- What any course sets moves the count. -/
theorem Course.moves {t : Scaler} {now : Nat} {d : ScaleDown} {current target n : Int32}
    {a : ScaleAction} (h : Course s now d current target t (.set n a)) :
    Moves s.config current n := by
  cases h with
  | raised above fits => exact .inl ⟨above, fits⟩
  | lowered drops _ => exact .inr ⟨drops.1, word_le_max_right _ _⟩

/-- Whatever a call sets, it has read the count before and moves it. -/
theorem moves_of_issued {n : Int32} (h : (s.perform x).2.issued = some n) :
    ∃ current, x.answers.count = .ok current ∧ Moves s.config current n := by
  cases hr : x.answers.count with
  | error cause =>
    rw [perform_of_count_error hr] at h
    cases h
  | ok current =>
    refine ⟨current, rfl, ?_⟩
    cases hc : x.command with
    | upTo m =>
      rw [perform_upTo hc hr] at h
      obtain ⟨a, ha⟩ := eq_set_of_issued h
      obtain ⟨rfl, above, fits, -⟩ := ScalerConfig.raise_eq_set ha
      exact .inl ⟨above, fits⟩
    | downTo m =>
      rw [perform_downTo hc hr] at h
      obtain ⟨a, ha⟩ := eq_set_of_issued h
      obtain ⟨rfl, below, fits, -⟩ := ScalerConfig.lower_eq_set ha
      exact .inr ⟨below, fits⟩
    | applyTarget target d =>
      rw [perform_applyTarget hc hr] at h
      obtain ⟨a, ha⟩ := eq_set_of_issued h
      exact Course.moves (ha ▸ course_decide s x.now d current target)

/-- The same over a whole history. -/
theorem moves_of_mem_history {xs : List Call} {e : Entry} {n : Int32} (he : e ∈ s.history xs)
    (h : e.attempt.issued = some n) :
    ∃ current, e.call.answers.count = .ok current ∧ Moves s.config current n := by
  obtain ⟨t, x, config, -, rfl⟩ := exists_perform_of_mem_history he
  rw [← config]
  exact moves_of_issued h

/-! ## The count that is held -/

/-- The count that the orchestrator holds after a call, if only the scaler changes it. -/
def Entry.heldAfter (e : Entry) (held : Int32) : Int32 :=
  match e.attempt.issued, e.call.answers.set with
  | some n, .ok () => n
  | _, _ => held

/-- Each call that reads the count finds the one that the scaler's own calls have left. -/
def OwnCount (held : Int32) : List Entry → Prop
  | [] => True
  | e :: es =>
    (∀ current, e.call.answers.count = .ok current → current = held) ∧
      OwnCount (e.heldAfter held) es

/-- While only the scaler changes the count, it never leaves the bounds. -/
theorem within_of_mem_history {xs : List Call} {e : Entry} {n held : Int32}
    (hw : Within s.config held) (own : OwnCount held (s.history xs)) (he : e ∈ s.history xs)
    (h : e.attempt.issued = some n) : Within s.config n := by
  induction xs generalizing s held with
  | nil => cases he
  | cons x xs ih =>
    obtain ⟨hread, own⟩ := own
    -- what the first call sets lies within the bounds, and so does what it leaves
    have first : ∀ m, (s.perform x).2.issued = some m → Within s.config m := by
      intro m hm
      obtain ⟨current, hcount, moves⟩ := moves_of_issued hm
      obtain rfl := hread current hcount
      exact moves.within hw
    have left : Within s.config ((⟨x, (s.perform x).2⟩ : Entry).heldAfter held) := by
      rw [Entry.heldAfter]
      split
      · next m hm _ => exact first m hm
      · exact hw
    rw [history_cons, List.mem_cons] at he
    rcases he with rfl | he
    · exact first n h
    · rw [← config_perform s x] at left ⊢
      exact ih left own he

/-- Every count that is set has read the current one before, and moves it up to no more than
the maximum or down to no less than the minimum. So it lies within the bounds where the
current count does, and in a run that starts within the bounds and in which only the scaler
changes the count, all counts that are set lie within the bounds. -/
theorem issued_toward_bounds (s : Scaler) (xs : List Call) :
    (∀ e ∈ s.history xs, ∀ n, e.attempt.issued = some n →
      ∃ current, e.call.answers.count = .ok current ∧ Moves s.config current n ∧
        (Within s.config current → Within s.config n)) ∧
    (∀ held, Within s.config held → OwnCount held (s.history xs) →
      ∀ e ∈ s.history xs, ∀ n, e.attempt.issued = some n → Within s.config n) := by
  constructor
  · intro e he n hn
    obtain ⟨current, hcount, moves⟩ := moves_of_mem_history he hn
    exact ⟨current, hcount, moves, moves.within⟩
  · intro held hw own e he n hn
    exact within_of_mem_history hw own he hn

/-- One call that goes up from five to eight, with bounds of one and ten. -/
theorem issued_toward_bounds_from_five :
    Within default 5 ∧
      (∃ current, (.ok 5 : Except SourceError Int32) = .ok current ∧ Moves default current 8 ∧
        (Within default current → Within default 8)) ∧
      Within default 8 := by
  have h := issued_toward_bounds (.new default) [⟨0, .upTo 8, ⟨.ok 5, .ok ()⟩⟩]
  have five : Within default 5 := ⟨by decide, by decide⟩
  refine ⟨five, h.1 _ (List.mem_singleton_self _) 8 rfl, ?_⟩
  refine h.2 5 five ⟨?_, trivial⟩ _ (List.mem_singleton_self _) 8 rfl
  intro current hcurrent
  cases hcurrent
  rfl

/-- Neither bound is kept from outside: going down from twenty sets fifteen above a maximum
of ten, and going up from none sets one below a minimum of three. -/
theorem not_issued_within_bounds :
    (¬ ∀ config : ScalerConfig, 0 ≤ config.minReplicas →
      config.minReplicas ≤ config.maxReplicas → ∀ xs, ∀ e ∈ (Scaler.new config).history xs,
        ∀ n, e.attempt.issued = some n → n ≤ config.maxReplicas) ∧
    (¬ ∀ config : ScalerConfig, 0 ≤ config.minReplicas →
      config.minReplicas ≤ config.maxReplicas → ∀ xs, ∀ e ∈ (Scaler.new config).history xs,
        ∀ n, e.attempt.issued = some n → config.minReplicas ≤ n) := by
  constructor
  · intro h
    have hmax := h default (by decide) (by decide) [⟨0, .downTo 15, ⟨.ok 20, .ok ()⟩⟩] _
      (List.mem_singleton_self _) 15 rfl
    exact absurd hmax (by decide)
  · intro h
    have hmin := h ⟨3, 10, .steady, .max, .selectMax⟩ (by decide) (by decide)
      [⟨0, .upTo 1, ⟨.ok 0, .ok ()⟩⟩] _ (List.mem_singleton_self _) 1 rfl
    exact absurd hmin (by decide)

end PredictiveScaling.Scaler
