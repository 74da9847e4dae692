import PredictiveScaling.Proofs.Controller.Occupation

/-!
# Moves

Turns leave open where evaluation loops come from. A move is a turn, or an evaluation loop is
started. What holds of all turns holds of all moves.
-/
namespace PredictiveScaling

/-- What happens to a controller. -/
inductive Move where
  | turn (x : Turn)
  /-- An evaluation loop is started. -/
  | spawn

/-- The key under which nothing stays as it was. -/
def Move.replaces? : Move → Option String
  | .turn x => x.replaces?
  | .spawn => none

namespace Controller

def makes (c : Controller) : Move → Controller
  | .turn x => c.takes x
  | .spawn => c.spawnEvaluationLoop.2

/-- A move at a moment, and the calls that are made. -/
def move (c : Controller) (x : Moment × Move) : Controller × List Call :=
  (c.perform x.1 fun c => ((), c.makes x.2)).2

def moves (c : Controller) : List (Moment × Move) → Controller × List Call
  | [] => (c, [])
  | x :: xs => (((c.move x).1.moves xs).1, (c.move x).2 ++ ((c.move x).1.moves xs).2)

variable {c : Controller}

/-- A controller at a moment, before it makes any calls. -/
def asOf (c : Controller) (now : Moment) : Controller := { c with now, outbox := [] }

/-- What holds at the beginning and has nothing to do with time and calls holds after some moves if
each move keeps it. -/
theorem moves_induction {P : Controller → Prop}
    (still : ∀ c now outbox, P c → P { c with now, outbox })
    (step : ∀ c x, P c → P (c.makes x)) (h : P c) (xs : List (Moment × Move)) :
    P (c.moves xs).1 := by
  induction xs generalizing c with
  | nil => exact h
  | cons x xs ih =>
    have after := step (c.asOf x.1) x.2 (still c x.1 [] h)
    exact ih (still _ _ [] after)

/-- A controller that has just begun, whatever the process has found of sockets and whatever the
system will answer to those who want to listen. -/
inductive Fresh : Controller → Prop where
  | begins (instanceName : String) (workload : Workload) (scaler : ScalerConfig)
      (evaluation : EvaluationConfig) (sockets : Sockets) :
      Fresh { new instanceName workload scaler evaluation with sockets }

/-- What a controller can come to. -/
inductive Reached : Controller → Prop where
  | moves {start : Controller} (fresh : start.Fresh) (xs : List (Moment × Move)) :
      Reached (start.moves xs).1

theorem Orderly.makes (h : c.Orderly) (x : Move) : (c.makes x).Orderly := by
  cases x with
  | turn x => exact h.takes x
  | spawn => exact ⟨h.rooted, h.made, h.once⟩

theorem orderly_moves (h : c.Orderly) (xs : List (Moment × Move)) : (c.moves xs).1.Orderly :=
  moves_induction (fun _ _ _ h => ⟨h.rooted, h.made, h.once⟩) (fun _ x h => h.makes x) h xs

theorem exclusive_makes (h : c.traffic.Exclusive) (x : Move) :
    (c.makes x).traffic.Exclusive := by
  cases x with
  | turn x => exact exclusive_takes h x
  | spawn => exact h

theorem exclusive_moves (h : c.traffic.Exclusive) (xs : List (Moment × Move)) :
    (c.moves xs).1.traffic.Exclusive :=
  moves_induction (P := fun c => c.traffic.Exclusive) (fun _ _ _ h => h)
    (fun _ x h => exclusive_makes h x) h xs

theorem Fresh.orderly (h : c.Fresh) : c.Orderly := by
  cases h with
  | begins instanceName workload scaler evaluation sockets =>
    have order := orderly_new instanceName workload scaler evaluation
    exact ⟨order.rooted, order.made, order.once⟩

theorem Fresh.exclusive (h : c.Fresh) : c.traffic.Exclusive := by
  cases h with
  | begins instanceName workload scaler evaluation sockets =>
    exact exclusive_new instanceName workload scaler evaluation

theorem Reached.orderly (h : c.Reached) : c.Orderly := by
  cases h with
  | moves fresh xs => exact orderly_moves fresh.orderly xs

theorem Reached.exclusive (h : c.Reached) : c.traffic.Exclusive := by
  cases h with
  | moves fresh xs => exact exclusive_moves fresh.exclusive xs

end Controller

end PredictiveScaling
