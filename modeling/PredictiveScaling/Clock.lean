import PredictiveScaling.Duration

/-!
# Clocks and tickers

Two clocks are read: one drives timers, the other one only goes forward and measures how
long something has lasted. Times are whole milliseconds since some start.

A ticker is due at once when it starts and then once per period. A tick that was missed
comes at once, and the next one keeps to the rhythm that the start has set.
-/
namespace PredictiveScaling

/-- What both clocks show. -/
structure Moment where
  /-- The clock of timers. -/
  timer : Nat
  /-- The clock by which durations are measured. -/
  steady : Nat
deriving DecidableEq, Repr, Inhabited

structure Ticker where
  period : Duration
  due : Nat
deriving DecidableEq, Repr, Inhabited

namespace Ticker

/-- How late a tick may be and still count as on time, in milliseconds. -/
def tolerance : Nat := 5

def start (period : Duration) (now : Nat) : Ticker := ⟨period, now⟩

/-- The ticker after a tick at `now`. -/
def next (t : Ticker) (now : Nat) : Ticker :=
  let p := t.period.millis
  { t with due := if t.due + tolerance < now then now + p - (now - t.due) % p else t.due + p }

@[simp] theorem period_next (t : Ticker) (now : Nat) : (t.next now).period = t.period := rfl

/-- A tick that was missed leads to one that is due later than now. -/
theorem lt_due_next_of_late (t : Ticker) (now : Nat) (hp : 0 < t.period.millis)
    (late : t.due + tolerance < now) : now < (t.next now).due := by
  have h := Nat.mod_lt (now - t.due) hp
  simp only [next, if_pos late]
  omega

end Ticker

end PredictiveScaling
