/-!
# Durations

A duration is a whole number of milliseconds. Configuration and messages speak of
whole seconds: `ofSecs` takes them in and `secs` drops the part of a second.
-/
namespace PredictiveScaling

/-- A length of time. -/
structure Duration where
  millis : Nat
deriving DecidableEq, Repr, Inhabited

namespace Duration

def zero : Duration := ⟨0⟩

def ofSecs (n : Nat) : Duration := ⟨n * 1000⟩

def ofMillis (n : Nat) : Duration := ⟨n⟩

/-- Whole seconds; the rest is dropped. -/
def secs (d : Duration) : Nat := d.millis / 1000

instance : LE Duration := ⟨fun a b => a.millis ≤ b.millis⟩

instance : LT Duration := ⟨fun a b => a.millis < b.millis⟩

instance (a b : Duration) : Decidable (a ≤ b) := inferInstanceAs (Decidable (a.millis ≤ b.millis))

instance (a b : Duration) : Decidable (a < b) := inferInstanceAs (Decidable (a.millis < b.millis))

/-- The longer of two durations. -/
def max (a b : Duration) : Duration := ⟨Nat.max a.millis b.millis⟩

@[simp] theorem millis_max (a b : Duration) : (a.max b).millis = Nat.max a.millis b.millis := rfl

@[simp] theorem millis_ofSecs (n : Nat) : (ofSecs n).millis = n * 1000 := rfl

@[simp] theorem secs_ofSecs (n : Nat) : (ofSecs n).secs = n := by
  simp [secs]

end Duration

end PredictiveScaling
