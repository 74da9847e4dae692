import PredictiveScaling.Proofs.Replicas.Word
import PredictiveScaling.Replicas.Fold

/-!
# The order of sequences

Sequences are folded position by position, up to the end of the shortest. Neither the
shortest length nor what stands at a position depends on the order of the sequences but by
a permutation, which no strategy sees.
-/
namespace PredictiveScaling

/-! ## Lengths -/

/-- The shortest length is the greatest lower bound of all lengths. -/
theorem le_shortestLength_iff {α : Type} {sequences : List (List α)} (h : sequences ≠ [])
    {n : Nat} : n ≤ shortestLength sequences ↔ ∀ s ∈ sequences, n ≤ s.length := by
  induction sequences with
  | nil => exact absurd rfl h
  | cons s sequences ih =>
    cases sequences with
    | nil => simp [shortestLength]
    | cons t sequences =>
      have hlength : shortestLength (s :: t :: sequences) =
          min s.length (shortestLength (t :: sequences)) := rfl
      rw [hlength, Nat.le_min, ih (List.cons_ne_nil t sequences)]
      exact (List.forall_mem_cons (p := fun s : List α => n ≤ s.length)).symm

theorem shortestLength_perm {α : Type} {l l' : List (List α)} (h : l.Perm l') :
    shortestLength l = shortestLength l' := by
  by_cases hl : l = []
  · subst hl
    rw [h.nil_eq]
  · have hl' : l' ≠ [] := by
      intro hnil
      subst hnil
      exact hl h.eq_nil
    apply Nat.le_antisymm
    · rw [le_shortestLength_iff hl']
      intro s hs
      exact (le_shortestLength_iff hl).1 (Nat.le_refl _) s (h.mem_iff.2 hs)
    · rw [le_shortestLength_iff hl]
      intro s hs
      exact (le_shortestLength_iff hl').1 (Nat.le_refl _) s (h.mem_iff.1 hs)

theorem column_perm {α : Type} {l l' : List (List α)} (h : l.Perm l') (i : Nat) :
    (column l i).Perm (column l' i) :=
  h.filterMap _

/-! ## Strategies -/

namespace ModelStrategy

theorem max?_perm {l l' : List Int32} (h : l.Perm l') : l.max? = l'.max? := by
  apply Option.ext
  intro a
  rw [List.max?_eq_some_iff, List.max?_eq_some_iff, h.mem_iff]
  simp only [h.mem_iff]

theorem min?_perm {l l' : List Int32} (h : l.Perm l') : l.min? = l'.min? := by
  apply Option.ext
  intro a
  rw [List.min?_eq_some_iff, List.min?_eq_some_iff, h.mem_iff]
  simp only [h.mem_iff]

theorem average_perm {l l' : List Int32} (h : l.Perm l') : average l = average l' := by
  have swap : ∀ x ∈ l, ∀ y ∈ l, ∀ z : Int64,
      z + x.toInt64 + y.toInt64 = z + y.toInt64 + x.toInt64 := by
    intro x _ y _ z
    rw [Int64.add_assoc, Int64.add_comm x.toInt64, ← Int64.add_assoc]
  simp only [average]
  rw [h.foldl_eq' swap, h.length_eq]

theorem fold_perm (s : ModelStrategy) {l l' : List Int32} (h : l.Perm l') :
    s.fold l = s.fold l' := by
  cases s with
  | max => simp only [fold, max?_perm h]
  | min => simp only [fold, min?_perm h]
  | mean => simp only [fold, average_perm h]

/-- A strategy does not see the order of the sequences. -/
theorem apply_perm (s : ModelStrategy) {l l' : List (List Int32)} (h : l.Perm l') :
    s.apply l = s.apply l' := by
  rw [apply]
  rw [shortestLength_perm h]
  refine List.map_congr_left fun i _ => ?_
  exact s.fold_perm (column_perm h i)

end ModelStrategy

end PredictiveScaling
