/-!
# Arenas

An arena numbers the values put into it from 0 in the order of their arrival. A value
can be changed in place but not taken out, so a number names the same value for good.
-/
namespace PredictiveScaling

/-- Values under numbers that are never used twice. -/
structure Arena (α : Type) where
  items : List α
deriving Repr

namespace Arena

variable {α : Type}

def empty : Arena α := ⟨[]⟩

instance : Inhabited (Arena α) := ⟨empty⟩

/-- How many values there are, and the number of the next one. -/
def size (a : Arena α) : Nat := a.items.length

def get? (a : Arena α) (i : Nat) : Option α := a.items[i]?

/-- Put in a value; its number is the old `size`. -/
def push (a : Arena α) (x : α) : Arena α := ⟨a.items ++ [x]⟩

/-- Put in values one after the other. -/
def append (a : Arena α) (l : List α) : Arena α := ⟨a.items ++ l⟩

def modify (a : Arena α) (i : Nat) (f : α → α) : Arena α := ⟨a.items.modify i f⟩

def toList (a : Arena α) : List α := a.items

/-- All values with their numbers. -/
def indexed (a : Arena α) : List (Nat × α) := a.items.zipIdx.map fun (x, i) => (i, x)

@[simp] theorem size_push (a : Arena α) (x : α) : (a.push x).size = a.size + 1 := by
  simp [size, push]

@[simp] theorem size_append (a : Arena α) (l : List α) :
    (a.append l).size = a.size + l.length := by
  simp [size, append]

@[simp] theorem size_modify (a : Arena α) (i : Nat) (f : α → α) : (a.modify i f).size = a.size := by
  simp [size, modify]

@[simp] theorem get?_push_self (a : Arena α) (x : α) : (a.push x).get? a.size = some x := by
  simp [get?, push, size]

theorem get?_push (a : Arena α) (x : α) (i : Nat) :
    (a.push x).get? i = if i = a.size then some x else a.get? i := by
  by_cases h : i = a.size
  · subst h; simp
  · rw [if_neg h]
    simp only [size] at h
    simp only [get?, push, List.getElem?_append]
    split
    · rfl
    · rw [List.getElem?_eq_none (by simp only [List.length_singleton]; omega),
        List.getElem?_eq_none (by omega)]

theorem get?_push_of_lt (a : Arena α) (x : α) {i : Nat} (h : i < a.size) :
    (a.push x).get? i = a.get? i := by
  rw [get?_push, if_neg (by omega)]

theorem get?_append_of_lt (a : Arena α) (l : List α) {i : Nat} (h : i < a.size) :
    (a.append l).get? i = a.get? i := by
  simp only [get?, append]
  exact List.getElem?_append_left h

theorem get?_append_add (a : Arena α) (l : List α) (i : Nat) :
    (a.append l).get? (a.size + i) = l[i]? := by
  simp only [get?, append, size]
  rw [List.getElem?_append_right (Nat.le_add_right _ _), Nat.add_sub_cancel_left]

theorem get?_modify (a : Arena α) (i j : Nat) (f : α → α) :
    (a.modify i f).get? j = if i = j then (a.get? j).map f else a.get? j := by
  simp only [get?, modify, List.getElem?_modify]
  split <;> simp_all

@[simp] theorem get?_modify_self (a : Arena α) (i : Nat) (f : α → α) :
    (a.modify i f).get? i = (a.get? i).map f := by
  simp [get?_modify]

theorem get?_modify_of_ne (a : Arena α) {i j : Nat} (h : i ≠ j) (f : α → α) :
    (a.modify i f).get? j = a.get? j := by
  simp [get?_modify, h]

theorem modify_push_self (a : Arena α) (x : α) (f : α → α) :
    (a.push x).modify a.size f = a.push (f x) := by
  simp [modify, push, size, List.modify_eq_take_cons_drop]

theorem get?_eq_none_iff (a : Arena α) (i : Nat) : a.get? i = none ↔ a.size ≤ i := by
  simp [get?, size]

theorem lt_size_of_get? {a : Arena α} {i : Nat} {x : α} (h : a.get? i = some x) : i < a.size := by
  have hne : a.get? i ≠ none := by rw [h]; nofun
  rw [Ne, get?_eq_none_iff] at hne
  omega

end Arena

end PredictiveScaling
