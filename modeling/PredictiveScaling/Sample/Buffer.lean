import PredictiveScaling.Sample

/-!
# Sample buffers

A buffer keeps the most recent samples of a metric up to a cap and remembers which of
them have not been handed out yet. Those are always the last ones, so a count is enough.
Handing out leaves the samples where they are: predictors read the same buffer.
-/
namespace PredictiveScaling

/-- Retained samples, oldest first. A cap of 0 retains everything. -/
structure Buffer where
  cap : Nat
  samples : List Sample
  /-- How many of the last samples were not handed out. -/
  unsent : Nat
  unsent_le : unsent ≤ samples.length
deriving Repr

namespace Buffer

def empty (cap : Nat) : Buffer := ⟨cap, [], 0, Nat.le_refl 0⟩

instance : Inhabited Buffer := ⟨empty 0⟩

/-- The last `cap` elements; all of them for a cap of 0. -/
def retain {α : Type} (cap : Nat) (l : List α) : List α :=
  if cap = 0 then l else l.drop (l.length - cap)

def size (b : Buffer) : Nat := b.samples.length

/-- Put samples at the end and drop the oldest ones beyond the cap. -/
def append (b : Buffer) (xs : List Sample) : Buffer :=
  let kept := retain b.cap (b.samples ++ xs)
  { cap := b.cap
    samples := kept
    unsent := min (b.unsent + xs.length) kept.length
    unsent_le := Nat.min_le_right _ _ }

/-- Hand out what was not handed out before. -/
def send (b : Buffer) : List Sample × Buffer :=
  (b.samples.drop (b.samples.length - b.unsent), { b with unsent := 0, unsent_le := Nat.zero_le _ })

/-- The last `n` samples, if there are so many. -/
def window? (b : Buffer) (n : Nat) : Option (List Sample) :=
  if n ≤ b.samples.length then some (b.samples.drop (b.samples.length - n)) else none

/-- The values of the last `n` samples. -/
def values? (b : Buffer) (n : Nat) : Option (List Float) :=
  (b.window? n).map fun xs => xs.map Sample.value

def latest? (b : Buffer) : Option Sample := b.samples.getLast?

@[simp] theorem samples_append (b : Buffer) (xs : List Sample) :
    (b.append xs).samples = retain b.cap (b.samples ++ xs) := rfl

@[simp] theorem cap_append (b : Buffer) (xs : List Sample) : (b.append xs).cap = b.cap := rfl

@[simp] theorem samples_send (b : Buffer) : b.send.2.samples = b.samples := rfl

theorem window?_isSome (b : Buffer) (n : Nat) : (b.window? n).isSome = decide (n ≤ b.size) := by
  by_cases h : n ≤ b.samples.length <;> simp [window?, size, h]

theorem length_of_window? {b : Buffer} {n : Nat} {xs : List Sample} (h : b.window? n = some xs) :
    xs.length = n := by
  simp only [window?] at h
  split at h
  · cases h
    simp only [List.length_drop]
    omega
  · cases h

theorem exists_values? {b : Buffer} {n : Nat} (enough : n ≤ b.size) :
    ∃ xs, b.values? n = some xs ∧ xs.length = n := by
  obtain ⟨xs, hxs⟩ := Option.isSome_iff_exists.1
    ((b.window?_isSome n).trans (decide_eq_true enough))
  refine ⟨xs.map Sample.value, congrArg (Option.map _) hxs, ?_⟩
  rw [List.length_map, length_of_window? hxs]

end Buffer

end PredictiveScaling
