/-!
# Key maps

A key map holds at most one value under each key. Its entries stand in some order
that no answer may depend on; `find?` is the view through which it is understood,
and each operation has one equation that says what it does to that view.
-/
namespace PredictiveScaling

/-- A finite map, as a list of entries with distinct keys. -/
structure KeyMap (κ α : Type) where
  entries : List (κ × α)
  nodup_keys : (entries.map Prod.fst).Nodup

namespace KeyMap

variable {κ α : Type} [DecidableEq κ]

/-! ## Lists of entries -/

/-- Put an entry in the place of the one with the same key, or at the end. -/
def insertEntry (k : κ) (v : α) : List (κ × α) → List (κ × α)
  | [] => [(k, v)]
  | e :: r => if e.1 = k then (k, v) :: r else e :: insertEntry k v r

theorem map_fst_insertEntry (k : κ) (v : α) (l : List (κ × α)) :
    (insertEntry k v l).map Prod.fst =
      if k ∈ l.map Prod.fst then l.map Prod.fst else l.map Prod.fst ++ [k] := by
  induction l with
  | nil => simp [insertEntry]
  | cons e r ih =>
    by_cases h : e.1 = k
    · simp [insertEntry, h]
    · have hk : k ≠ e.1 := Ne.symm h
      simp only [insertEntry, h, if_false, List.map_cons, List.mem_cons, hk, false_or, ih]
      split <;> simp

theorem nodup_map_fst_insertEntry (k : κ) (v : α) {l : List (κ × α)}
    (h : (l.map Prod.fst).Nodup) : ((insertEntry k v l).map Prod.fst).Nodup := by
  rw [map_fst_insertEntry]
  split
  · exact h
  · next hk =>
    rw [List.nodup_append]
    refine ⟨h, by simp, ?_⟩
    intro a ha b hb
    simp only [List.mem_singleton] at hb
    subst hb
    exact fun hab => hk (hab ▸ ha)

/-! ## Operations -/

def empty : KeyMap κ α := ⟨[], List.nodup_nil⟩

instance : Inhabited (KeyMap κ α) := ⟨empty⟩

/-- The value under a key. -/
def find? (m : KeyMap κ α) (k : κ) : Option α :=
  (m.entries.find? fun e => e.1 = k).map Prod.snd

def contains (m : KeyMap κ α) (k : κ) : Bool := (m.find? k).isSome

/-- Put a value under a key, in place of the one that was there. -/
def insert (m : KeyMap κ α) (k : κ) (v : α) : KeyMap κ α :=
  ⟨insertEntry k v m.entries, nodup_map_fst_insertEntry k v m.nodup_keys⟩

/-- Keep the entries whose key satisfies `p`. -/
def filterKeys (m : KeyMap κ α) (p : κ → Bool) : KeyMap κ α :=
  ⟨m.entries.filter fun e => p e.1,
    m.nodup_keys.sublist ((List.filter_sublist (p := fun e => p e.1)).map Prod.fst)⟩

/-- Drop a key and its value. -/
def erase (m : KeyMap κ α) (k : κ) : KeyMap κ α := m.filterKeys fun k' => k' ≠ k

def keys (m : KeyMap κ α) : List κ := m.entries.map Prod.fst

def toList (m : KeyMap κ α) : List (κ × α) := m.entries

def size (m : KeyMap κ α) : Nat := m.entries.length

def isEmpty (m : KeyMap κ α) : Bool := m.entries.isEmpty

/-- Of entries with one key the last one counts. -/
def ofList (l : List (κ × α)) : KeyMap κ α :=
  l.foldl (fun m e => m.insert e.1 e.2) empty

/-- Add to the number under a key, which counts as 0 when absent. -/
def add (m : KeyMap κ Nat) (k : κ) (n : Nat) : KeyMap κ Nat :=
  m.insert k ((m.find? k).getD 0 + n)

/-! ## What the operations do to the view -/

@[simp] theorem find?_empty (k : κ) : (empty : KeyMap κ α).find? k = none := rfl

theorem find?_insertEntry (k k' : κ) (v : α) (l : List (κ × α)) :
    ((insertEntry k v l).find? fun e => e.1 = k').map Prod.snd =
      if k = k' then some v else (l.find? fun e => e.1 = k').map Prod.snd := by
  induction l with
  | nil => by_cases h : k = k' <;> simp [insertEntry, h]
  | cons e r ih =>
    by_cases h : e.1 = k
    · by_cases hk : k = k'
      · simp [insertEntry, h, hk]
      · have he : e.1 ≠ k' := fun h' => hk (h ▸ h')
        simp [insertEntry, h, hk]
    · by_cases he : e.1 = k'
      · have hk : k ≠ k' := fun h' => h (h' ▸ he)
        simp [insertEntry, he, hk, Ne.symm hk]
      · simp [insertEntry, h, he, ih]

theorem find?_insert (m : KeyMap κ α) (k k' : κ) (v : α) :
    (m.insert k v).find? k' = if k = k' then some v else m.find? k' :=
  find?_insertEntry k k' v m.entries

@[simp] theorem find?_insert_self (m : KeyMap κ α) (k : κ) (v : α) :
    (m.insert k v).find? k = some v := by
  simp [find?_insert]

theorem find?_insert_of_ne (m : KeyMap κ α) {k k' : κ} (h : k ≠ k') (v : α) :
    (m.insert k v).find? k' = m.find? k' := by
  simp [find?_insert, h]

theorem find?_filterKeys (m : KeyMap κ α) (p : κ → Bool) (k : κ) :
    (m.filterKeys p).find? k = if p k then m.find? k else none := by
  simp only [find?, filterKeys, List.find?_filter]
  cases hp : p k with
  | true =>
    rw [if_pos rfl]
    congr 2
    funext e
    by_cases h : e.1 = k <;> simp [h, hp]
  | false =>
    rw [if_neg (by simp)]
    rw [List.find?_eq_none.2]
    · rfl
    · intro e _
      by_cases h : e.1 = k <;> simp [h, hp]

theorem find?_erase (m : KeyMap κ α) (k k' : κ) :
    (m.erase k).find? k' = if k = k' then none else m.find? k' := by
  rw [erase, find?_filterKeys]
  by_cases h : k = k'
  · simp [h]
  · simp [h, Ne.symm h]

@[simp] theorem find?_erase_self (m : KeyMap κ α) (k : κ) : (m.erase k).find? k = none := by
  simp [find?_erase]

theorem find?_erase_of_ne (m : KeyMap κ α) {k k' : κ} (h : k ≠ k') :
    (m.erase k).find? k' = m.find? k' := by
  simp [find?_erase, h]

theorem contains_insert (m : KeyMap κ α) (k k' : κ) (v : α) :
    (m.insert k v).contains k' = (decide (k = k') || m.contains k') := by
  simp only [contains, find?_insert]
  by_cases h : k = k' <;> simp [h]

theorem contains_erase (m : KeyMap κ α) (k k' : κ) :
    (m.erase k).contains k' = (!decide (k = k') && m.contains k') := by
  simp only [contains, find?_erase]
  by_cases h : k = k' <;> simp [h]

theorem find?_mem {m : KeyMap κ α} {k : κ} {v : α} (h : m.find? k = some v) :
    (k, v) ∈ m.entries := by
  obtain ⟨e, he, rfl⟩ := Option.map_eq_some_iff.1 h
  have hk := List.find?_some he
  simp only [decide_eq_true_eq] at hk
  exact hk ▸ List.mem_of_find?_eq_some he

theorem find?_eq_some_of_mem_aux {l : List (κ × α)} (h : (l.map Prod.fst).Nodup) {k : κ} {v : α}
    (hm : (k, v) ∈ l) : (l.find? fun e => e.1 = k).map Prod.snd = some v := by
  induction l with
  | nil => simp at hm
  | cons e r ih =>
    simp only [List.map_cons, List.nodup_cons] at h
    rcases List.mem_cons.1 hm with rfl | hm
    · simp
    · have hne : e.1 ≠ k := fun he => h.1 (he ▸ List.mem_map_of_mem hm)
      simp [hne, ih h.2 hm]

/-- Membership of an entry and look-up say the same. -/
theorem mem_entries_iff (m : KeyMap κ α) (k : κ) (v : α) :
    (k, v) ∈ m.entries ↔ m.find? k = some v :=
  ⟨find?_eq_some_of_mem_aux m.nodup_keys, find?_mem⟩

theorem mem_keys_iff (m : KeyMap κ α) (k : κ) : k ∈ m.keys ↔ m.contains k = true := by
  simp only [keys, List.mem_map, contains, Option.isSome_iff_exists]
  constructor
  · rintro ⟨⟨k', v⟩, h, rfl⟩
    exact ⟨v, (mem_entries_iff m _ v).1 h⟩
  · rintro ⟨v, h⟩
    exact ⟨(k, v), (mem_entries_iff m k v).2 h, rfl⟩

end KeyMap

end PredictiveScaling
