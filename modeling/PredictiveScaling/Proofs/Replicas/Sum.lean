import PredictiveScaling.Proofs.Replicas.Fold
import Mathlib.Algebra.BigOperators.Group.List.Basic
import Mathlib.Algebra.Order.BigOperators.Group.List
import Mathlib.Algebra.Order.Ring.Int
import Mathlib.Tactic.Ring

/-!
# Sums in words

The sums of an evaluation are 64-bit words, and words wrap. A sum of few enough summands,
none of them too large, never does: it is the sum of the numbers (`toInt_foldl_add`). So a
mean of counts is the floor of the exact one (`ModelStrategy.toInt_average`), and a fold of
counts that are not negative is not negative either.
-/
namespace PredictiveScaling

/-! ## Single operations -/

/-- The numbers that a 64-bit word can hold. -/
def FitsWord (n : Int) : Prop := -9223372036854775808 ≤ n ∧ n < 9223372036854775808

variable {a b : Int64}

theorem toInt_add_of_fits (h : FitsWord (a.toInt + b.toInt)) :
    (a + b).toInt = a.toInt + b.toInt := by
  obtain ⟨hlo, hhi⟩ := h
  rw [Int64.toInt_add]
  apply Int.bmod_eq_of_le <;> omega

theorem toInt_sub_of_fits (h : FitsWord (a.toInt - b.toInt)) :
    (a - b).toInt = a.toInt - b.toInt := by
  obtain ⟨hlo, hhi⟩ := h
  rw [Int64.toInt_sub]
  apply Int.bmod_eq_of_le <;> omega

theorem toInt_mul_of_fits (h : FitsWord (a.toInt * b.toInt)) :
    (a * b).toInt = a.toInt * b.toInt := by
  obtain ⟨hlo, hhi⟩ := h
  rw [Int64.toInt_mul]
  apply Int.bmod_eq_of_le <;> omega

/-! ## Sums -/

variable {α : Type} {bound : Int}

/-- Bounds of the summands bound the sum. -/
theorem sum_map_bounds {g : α → Int} {l : List α} {lo hi : Int}
    (bounds : ∀ x ∈ l, lo ≤ g x ∧ g x ≤ hi) :
    l.length * lo ≤ (l.map g).sum ∧ (l.map g).sum ≤ l.length * hi := by
  have hlo := List.card_nsmul_le_sum (l.map g) lo
    (List.forall_mem_map.2 fun x hx => (bounds x hx).1)
  have hhi := List.sum_le_card_nsmul (l.map g) hi
    (List.forall_mem_map.2 fun x hx => (bounds x hx).2)
  rw [List.length_map, nsmul_eq_mul] at hlo hhi
  exact ⟨hlo, hhi⟩

/-- A sum of words that has room for all its summands does not wrap. -/
theorem toInt_foldl_add {f : α → Int64} {l : List α} {start : Int64}
    (small : ∀ x ∈ l, -bound ≤ (f x).toInt ∧ (f x).toInt ≤ bound)
    (below : FitsWord (start.toInt - l.length * bound))
    (above : FitsWord (start.toInt + l.length * bound)) :
    (l.foldl (fun s x => s + f x) start).toInt =
      start.toInt + (l.map fun x => (f x).toInt).sum := by
  induction l generalizing start with
  | nil => simp
  | cons x l ih =>
    obtain ⟨hlo, hhi⟩ := small x List.mem_cons_self
    have hrest : 0 ≤ (l.length : Int) * bound :=
      Int.mul_nonneg (Int.natCast_nonneg _) (by omega)
    unfold FitsWord at *
    rw [List.length_cons] at below above
    push_cast at below above
    rw [Int.add_mul] at below above
    have hstep : (start + f x).toInt = start.toInt + (f x).toInt :=
      toInt_add_of_fits (by unfold FitsWord; omega)
    -- `x` takes up no more than its share of the room, so what is left does for the others.
    have hbelow : -9223372036854775808 ≤ (start + f x).toInt - l.length * bound ∧
        (start + f x).toInt - l.length * bound < 9223372036854775808 := by omega
    have habove : -9223372036854775808 ≤ (start + f x).toInt + l.length * bound ∧
        (start + f x).toInt + l.length * bound < 9223372036854775808 := by omega
    have hsum := ih (fun y hy => small y (List.mem_cons_of_mem x hy)) hbelow habove
    rw [List.foldl_cons, hsum, hstep, List.map_cons, List.sum_cons, Int.add_assoc]

/-! ## Folds -/

namespace ModelStrategy

variable {strategy : ModelStrategy} {sequences : List (List Int32)}

theorem toInt_bounds (x : Int32) : -2147483648 ≤ x.toInt ∧ x.toInt ≤ 2147483647 := by
  have hlo := x.le_toInt
  have hhi := x.toInt_lt
  omega

/-- There is room in a word for the sum of fewer than 2^32 counts. -/
theorem toInt_foldl_counts {xs : List Int32} (few : xs.length < 4294967296) :
    (xs.foldl (fun (s : Int64) x => s + x.toInt64) 0).toInt = (xs.map Int32.toInt).sum := by
  have hsmall : ∀ x ∈ xs, -2147483648 ≤ x.toInt64.toInt ∧ x.toInt64.toInt ≤ 2147483648 := by
    intro x _
    have hx := toInt_bounds x
    rw [Int32.toInt_toInt64]
    omega
  have hbelow : FitsWord ((0 : Int64).toInt - xs.length * 2147483648) := by
    rw [Int64.toInt_zero, FitsWord]
    omega
  have habove : FitsWord ((0 : Int64).toInt + xs.length * 2147483648) := by
    rw [Int64.toInt_zero, FitsWord]
    omega
  rw [toInt_foldl_add hsmall hbelow habove, Int64.toInt_zero, Int.zero_add]
  simp only [Int32.toInt_toInt64]

/-- The mean of counts is the floor of the exact one. -/
theorem toInt_average {xs : List Int32} (hne : xs ≠ [])
    (few : xs.length < 4294967296) :
    (average xs).toInt = (xs.map Int32.toInt).sum / xs.length := by
  have hlength : 0 < (xs.length : Int) := by
    exact_mod_cast List.length_pos_iff.2 hne
  obtain ⟨hlo, hhi⟩ := sum_map_bounds fun x (_ : x ∈ xs) => toInt_bounds x
  have hfloor : -2147483648 ≤ (xs.map Int32.toInt).sum / xs.length := by
    apply Int.le_ediv_of_mul_le hlength
    rwa [Int.mul_comm]
  have hceil : (xs.map Int32.toInt).sum / xs.length ≤ 2147483647 := by
    apply Int.ediv_le_of_le_mul hlength
    rwa [Int.mul_comm]
  rw [average, toInt_foldl_counts few]
  exact Int32.toInt_ofInt_of_le hfloor (by omega)

/-- A fold of counts that are not negative is not negative. -/
theorem fold_nonneg {xs : List Int32} (few : strategy = .mean → xs.length < 4294967296)
    (h : ∀ x ∈ xs, 0 ≤ x) : 0 ≤ strategy.fold xs := by
  have hnumbers : ∀ n ∈ xs.map Int32.toInt, 0 ≤ n :=
    List.forall_mem_map.2 fun x hx => Int32.le_iff_toInt_le.1 (h x hx)
  cases strategy with
  | max =>
    cases hmax : xs.max? with
    | none => rw [fold, hmax]; decide
    | some x =>
      rw [fold, hmax]
      exact h x (List.max?_eq_some_iff.1 hmax).1
  | min =>
    cases hmin : xs.min? with
    | none => rw [fold, hmin]; decide
    | some x =>
      rw [fold, hmin]
      exact h x (List.min?_eq_some_iff.1 hmin).1
  | mean =>
    by_cases hne : xs = []
    · subst hne
      decide
    · rw [fold, Int32.le_iff_toInt_le, toInt_average hne (few rfl)]
      exact Int.ediv_nonneg (List.sum_nonneg hnumbers) (Int.natCast_nonneg _)

theorem length_apply (strategy : ModelStrategy) (sequences : List (List Int32)) :
    (strategy.apply sequences).length = shortestLength sequences := by
  rw [apply, List.length_map, List.length_range]

theorem apply_nonneg (few : strategy = .mean → sequences.length < 4294967296)
    (h : ∀ s ∈ sequences, ∀ x ∈ s, 0 ≤ x) : ∀ x ∈ strategy.apply sequences, 0 ≤ x := by
  refine List.forall_mem_map.2 fun i _ => fold_nonneg ?_ ?_
  · exact fun mean => Nat.lt_of_le_of_lt (List.length_filterMap_le _ _) (few mean)
  · intro x hx
    obtain ⟨s, hs, hx⟩ := List.mem_filterMap.1 hx
    exact h s hs x (List.mem_of_getElem? hx)

end ModelStrategy

end PredictiveScaling
