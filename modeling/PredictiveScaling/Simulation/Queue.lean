/-!
# Queues of things to come

What is to happen, in the order of its time. Of what happens at one time, that comes first
that was put in first, unless it was put in front.
-/
namespace PredictiveScaling

/-- Things to come with their times, the next one first. -/
structure Queue (α : Type) where
  entries : List (Nat × α)

namespace Queue

variable {α : Type}

def empty : Queue α := ⟨[]⟩

/-- Put in an entry behind all that are not later. -/
def insertEntry (due : Nat) (x : α) : List (Nat × α) → List (Nat × α)
  | [] => [(due, x)]
  | e :: es => if due < e.1 then (due, x) :: e :: es else e :: insertEntry due x es

def insert (q : Queue α) (due : Nat) (x : α) : Queue α := ⟨insertEntry due x q.entries⟩

/-- Put in what happens before everything else; it must not be later than all the rest. -/
def insertFirst (q : Queue α) (due : Nat) (x : α) : Queue α := ⟨(due, x) :: q.entries⟩

/-- Take out what comes next, if it comes by this time. -/
def next? (q : Queue α) (limit : Nat) : Option ((Nat × α) × Queue α) :=
  match q.entries with
  | [] => none
  | e :: es => if e.1 ≤ limit then some (e, ⟨es⟩) else none

def size (q : Queue α) : Nat := q.entries.length

end Queue

end PredictiveScaling
