import PredictiveScaling.Arena
import PredictiveScaling.KeyMap
import PredictiveScaling.Workload

/-!
# The registry of workloads

Each managed workload has a state, made when the workload is first asked for. A workload
that was removed and is asked for again gets a new state, so states are numbered.
-/
namespace PredictiveScaling

/-- Workloads, and all states that were ever made. -/
structure Registry (σ : Type) where
  ids : KeyMap Workload Nat
  states : Arena σ

namespace Registry

variable {σ : Type}

def empty : Registry σ := ⟨KeyMap.empty, Arena.empty⟩

/-- The number of a workload's state. -/
def find? (r : Registry σ) (w : Workload) : Option Nat := r.ids.find? w

/-- The number of a workload's state; it is made if there is none. -/
def getOrCreate (r : Registry σ) (w : Workload) (fresh : σ) : Nat × Registry σ :=
  match r.find? w with
  | some id => (id, r)
  | none => (r.states.size, ⟨r.ids.insert w r.states.size, r.states.push fresh⟩)

/-- Forget a workload. -/
def remove (r : Registry σ) (w : Workload) : Option Nat × Registry σ :=
  (r.find? w, { r with ids := r.ids.erase w })

def size (r : Registry σ) : Nat := r.ids.size

/-- The workloads with the numbers of their states. -/
def toList (r : Registry σ) : List (Workload × Nat) := r.ids.toList

theorem find?_getOrCreate (r : Registry σ) (w : Workload) (fresh : σ) :
    (r.getOrCreate w fresh).2.find? w = some (r.getOrCreate w fresh).1 := by
  cases h : r.find? w with
  | some id => simp [getOrCreate, h]
  | none =>
    simp only [getOrCreate, h]
    simp [find?]

end Registry

end PredictiveScaling
