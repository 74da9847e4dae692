import PredictiveScaling.Proofs.Replicas.Sum
import Mathlib.Data.Rat.Floor
import Mathlib.Order.Bounds.Basic

/-!
# Folds between their extremes

Each strategy folds sequences up to the end of the shortest. At a position before that end every
sequence has a count: the smallest and the largest fold are the least and the greatest of these, and
the mean, which lies between the two, is the floor of the exact one as long as there is room for
the sum (`ModelStrategy.folds_to_extremes_and_mean`).
-/
namespace PredictiveScaling.ModelStrategy

variable {sequences : List (List Int32)} {i : Nat}

/-! ## Positions -/

/-- The counts that the sequences have at a position. -/
def countsAt (sequences : List (List Int32)) (i : Nat) : Set Int32 :=
  { x | ∃ s ∈ sequences, s[i]? = some x }

/-- Their exact sum. -/
def totalAt (sequences : List (List Int32)) (i : Nat) : Int :=
  (sequences.map fun s => (s[i]?.getD 0).toInt).sum

theorem mem_column_iff {x : Int32} : x ∈ column sequences i ↔ x ∈ countsAt sequences i :=
  List.mem_filterMap

/-- Where no sequence has come to its end each has a count in the column. -/
theorem column_eq_map (reach : ∀ s ∈ sequences, i < s.length) :
    column sequences i = sequences.map fun s => s[i]?.getD 0 := by
  induction sequences with
  | nil => rfl
  | cons s rest ih =>
    obtain ⟨hs, hrest⟩ := List.forall_mem_cons.1 reach
    have ih := ih hrest
    rw [column] at ih ⊢
    rw [List.map_cons, List.filterMap_cons, List.getElem?_eq_getElem hs, ih]
    rfl

theorem sum_column (reach : ∀ s ∈ sequences, i < s.length) :
    ((column sequences i).map Int32.toInt).sum = totalAt sequences i := by
  rw [column_eq_map reach, List.map_map]
  rfl

theorem isLeast_length_apply (nonempty : sequences ≠ []) (strategy : ModelStrategy) :
    IsLeast { n | ∃ s ∈ sequences, s.length = n } (strategy.apply sequences).length := by
  rw [length_apply]
  constructor
  · -- some sequence is no longer than the shortest length, or that could be larger by one
    by_contra none
    have longer : shortestLength sequences + 1 ≤ shortestLength sequences := by
      refine (le_shortestLength_iff nonempty).2 fun s hs => ?_
      have hle := (le_shortestLength_iff nonempty).1 (Nat.le_refl _) s hs
      exact Nat.lt_of_le_of_ne hle fun same => none ⟨s, hs, same.symm⟩
    omega
  · rintro n ⟨s, hs, rfl⟩
    exact (le_shortestLength_iff nonempty).1 (Nat.le_refl _) s hs

theorem getElem?_apply (nonempty : sequences ≠ []) (reach : ∀ s ∈ sequences, i < s.length)
    (strategy : ModelStrategy) :
    (strategy.apply sequences)[i]? = some (strategy.fold (column sequences i)) := by
  have hi : i < shortestLength sequences := (le_shortestLength_iff nonempty).2 reach
  rw [apply, List.getElem?_map, List.getElem?_range hi]
  rfl

/-! ## Folds of a column -/

variable {xs : List Int32}

theorem isLeast_fold_min (h : xs ≠ []) : IsLeast { x | x ∈ xs } (min.fold xs) := by
  obtain ⟨x, hx⟩ := Option.ne_none_iff_exists'.1 (mt List.min?_eq_none_iff.1 h)
  rw [fold, hx]
  exact List.min?_eq_some_iff.1 hx

theorem isGreatest_fold_max (h : xs ≠ []) : IsGreatest { x | x ∈ xs } (max.fold xs) := by
  obtain ⟨x, hx⟩ := Option.ne_none_iff_exists'.1 (mt List.max?_eq_none_iff.1 h)
  rw [fold, hx]
  exact List.max?_eq_some_iff.1 hx

theorem toInt_fold_mean (h : xs ≠ []) (few : xs.length < 4294967296) :
    (mean.fold xs).toInt = ⌊((xs.map Int32.toInt).sum : ℚ) / xs.length⌋ := by
  rw [fold, toInt_average h few, Rat.floor_intCast_div_natCast]

/-- A mean lies between bounds of what it is the mean of. -/
theorem fold_mean_mem_Icc {lo hi : Int32} (h : xs ≠ []) (few : xs.length < 4294967296)
    (bounds : ∀ x ∈ xs, lo ≤ x ∧ x ≤ hi) : lo ≤ mean.fold xs ∧ mean.fold xs ≤ hi := by
  have hlength : 0 < (xs.length : Int) := by exact_mod_cast List.length_pos_iff.2 h
  simp only [Int32.le_iff_toInt_le] at bounds ⊢
  obtain ⟨hlo, hhi⟩ := sum_map_bounds bounds
  rw [fold, toInt_average h few]
  constructor
  · apply Int.le_ediv_of_mul_le hlength
    rwa [Int.mul_comm]
  · apply Int.ediv_le_of_le_mul hlength
    rwa [Int.mul_comm]

/-! ## Folds of sequences -/

/-- What the strategies make of the counts at a position. -/
structure FoldsTo (sequences : List (List Int32)) (i : Nat) (least mid greatest : Int32) :
    Prop where
  min_eq : (min.apply sequences)[i]? = some least
  mean_eq : (mean.apply sequences)[i]? = some mid
  max_eq : (max.apply sequences)[i]? = some greatest
  isLeast : IsLeast (countsAt sequences i) least
  isGreatest : IsGreatest (countsAt sequences i) greatest
  /-- The sum in a word is exact after each summand. -/
  sum_eq : sequences.length < 4294967296 → ∀ k,
    ((column (sequences.take k) i).foldl (fun (sum : Int64) x => sum + x.toInt64) 0).toInt =
      totalAt (sequences.take k) i
  mid_eq : sequences.length < 4294967296 →
    mid.toInt = ⌊(totalAt sequences i : ℚ) / sequences.length⌋
  between : sequences.length < 4294967296 → least ≤ mid ∧ mid ≤ greatest

/-- Folds of sequences are as long as the shortest of these. At each position the smallest and the
largest are the least and the greatest of the counts there. For fewer than 2^32 sequences the mean
is between them: it is the floor of the exact mean, and no sum on the way to it leaves its word. -/
theorem folds_to_extremes_and_mean (nonempty : sequences ≠ []) :
    (∀ strategy : ModelStrategy,
      IsLeast { n | ∃ s ∈ sequences, s.length = n } (strategy.apply sequences).length) ∧
    ∀ i, (∀ s ∈ sequences, i < s.length) →
      ∃ least mid greatest, FoldsTo sequences i least mid greatest := by
  refine ⟨isLeast_length_apply nonempty, fun i reach => ?_⟩
  have hlength : (column sequences i).length = sequences.length := by
    rw [column_eq_map reach, List.length_map]
  have hcolumn : column sequences i ≠ [] := by
    rwa [← List.length_pos_iff, hlength, List.length_pos_iff]
  have hcounts : { x | x ∈ column sequences i } = countsAt sequences i :=
    Set.ext fun x => mem_column_iff
  have least := isLeast_fold_min hcolumn
  have greatest := isGreatest_fold_max hcolumn
  refine ⟨_, _, _, getElem?_apply nonempty reach min, getElem?_apply nonempty reach mean,
    getElem?_apply nonempty reach max, hcounts ▸ least, hcounts ▸ greatest, ?_, ?_, ?_⟩
  · intro few k
    have hreach : ∀ s ∈ sequences.take k, i < s.length :=
      fun s hs => reach s (List.mem_of_mem_take hs)
    rw [toInt_foldl_counts, sum_column hreach]
    rw [column_eq_map hreach, List.length_map, List.length_take]
    omega
  · intro few
    rw [toInt_fold_mean hcolumn (hlength ▸ few), sum_column reach, hlength]
  · intro few
    exact fold_mean_mem_Icc hcolumn (hlength ▸ few) fun x hx => ⟨least.2 hx, greatest.2 hx⟩

/-- Minus seven and two have the mean minus three; what only one sequence has is cut off. -/
theorem folds_to_extremes_and_mean_of_negative :
    ([[-7, 5, 9], [2, 2]] : List (List Int32)) ≠ [] ∧
      (∀ s ∈ ([[-7, 5, 9], [2, 2]] : List (List Int32)), 0 < s.length) ∧
      IsLeast { n | ∃ s ∈ ([[-7, 5, 9], [2, 2]] : List (List Int32)), s.length = n } 2 ∧
      FoldsTo [[-7, 5, 9], [2, 2]] 0 (-7) (-3) 2 := by
  have nonempty : ([[-7, 5, 9], [2, 2]] : List (List Int32)) ≠ [] := List.cons_ne_nil _ _
  have reach : ∀ s ∈ ([[-7, 5, 9], [2, 2]] : List (List Int32)), 0 < s.length := by decide
  obtain ⟨shortest, folds⟩ := folds_to_extremes_and_mean nonempty
  obtain ⟨least, mid, greatest, h⟩ := folds 0 reach
  obtain rfl : -7 = least := Option.some.inj (.trans (by decide) h.min_eq)
  obtain rfl : -3 = mid := Option.some.inj (.trans (by decide) h.mean_eq)
  obtain rfl : 2 = greatest := Option.some.inj (.trans (by decide) h.max_eq)
  exact ⟨nonempty, reach, shortest mean, h⟩

end PredictiveScaling.ModelStrategy
