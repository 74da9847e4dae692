import PredictiveScaling.Evaluation.Goal
import Mathlib.Data.List.Induction
import Mathlib.Data.List.Sort
import Mathlib.Data.String.Basic

/-!
# Results by metric

The groups of an evaluation are one for each metric with a result, in the order of their
keys, and hold the counts of all results on it (`groups_eq_map`). So the order in which
results come in shows only in the order of the counts within a group.
-/
namespace PredictiveScaling.Goal

/-- The key of the metric that a result is on. -/
def metricKey? (r : PredictorResult) : Option String :=
  (splitPredictorKey? r.key).map Prod.fst

/-- The counts of the results on a metric, as they came in. -/
def countsOn (results : List PredictorResult) (k : String) : List (List Int32) :=
  results.filterMap fun r => if metricKey? r = some k then some r.counts else none

/-- Put in a key, unless it is there. -/
def insertKey (k : String) : List String → List String
  | [] => [k]
  | k' :: ks =>
    if k' = k then k' :: ks else if k < k' then k :: k' :: ks else k' :: insertKey k ks

/-- The keys of the metrics with results, in their order. -/
def resultKeys (results : List PredictorResult) : List String :=
  (results.filterMap metricKey?).foldl (fun ks k => insertKey k ks) []

/-! ## Keys -/

theorem mem_insertKey {k k' : String} {ks : List String} :
    k' ∈ insertKey k ks ↔ k' = k ∨ k' ∈ ks := by
  induction ks with
  | nil => simp [insertKey]
  | cons a ks ih =>
    rw [insertKey]
    split
    · next h => subst h; simp
    · split
      · simp
      · rw [List.mem_cons, ih, List.mem_cons]
        exact or_left_comm

theorem pairwise_insertKey (k : String) {ks : List String} (h : ks.Pairwise (· < ·)) :
    (insertKey k ks).Pairwise (· < ·) := by
  induction ks with
  | nil => simp [insertKey]
  | cons a ks ih =>
    rw [List.pairwise_cons] at h
    rw [insertKey]
    split
    · exact List.pairwise_cons.2 h
    · next hne =>
      split
      · next hlt =>
        refine List.pairwise_cons.2 ⟨fun b hb => ?_, List.pairwise_cons.2 h⟩
        rcases List.mem_cons.1 hb with rfl | hb
        · exact hlt
        · exact hlt.trans (h.1 b hb)
      · next hge =>
        refine List.pairwise_cons.2 ⟨fun b hb => ?_, ih h.2⟩
        rcases mem_insertKey.1 hb with rfl | hb
        · exact lt_of_le_of_ne (not_lt.1 hge) hne
        · exact h.1 b hb

/-- Putting in keys one after the other keeps their order and drops nothing. -/
theorem foldl_insertKey (l ks : List String) (h : ks.Pairwise (· < ·)) :
    (l.foldl (fun ks k => insertKey k ks) ks).Pairwise (· < ·) ∧
      ∀ k, k ∈ l.foldl (fun ks k => insertKey k ks) ks ↔ k ∈ l ∨ k ∈ ks := by
  induction l generalizing ks with
  | nil => simpa using h
  | cons a l ih =>
    obtain ⟨sorted, mem⟩ := ih (insertKey a ks) (pairwise_insertKey a h)
    refine ⟨sorted, fun k => ?_⟩
    rw [List.foldl_cons, mem, mem_insertKey, List.mem_cons]
    constructor
    · rintro (h | rfl | h)
      · exact .inl (.inr h)
      · exact .inl (.inl rfl)
      · exact .inr h
    · rintro ((rfl | h) | h)
      · exact .inr (.inl rfl)
      · exact .inl h
      · exact .inr (.inr h)

theorem pairwise_resultKeys (results : List PredictorResult) :
    (resultKeys results).Pairwise (· < ·) :=
  (foldl_insertKey _ [] .nil).1

/-- The metrics with results are those that some result is on. -/
theorem mem_resultKeys {results : List PredictorResult} {k : String} :
    k ∈ resultKeys results ↔ ∃ r ∈ results, metricKey? r = some k := by
  rw [resultKeys, (foldl_insertKey _ [] .nil).2, List.mem_filterMap]
  simp

theorem countsOn_eq_nil_of_notMem {results : List PredictorResult} {k : String}
    (h : k ∉ resultKeys results) : countsOn results k = [] := by
  rw [countsOn, List.filterMap_eq_nil_iff]
  intro r hr
  have hne : metricKey? r ≠ some k := fun hk => h (mem_resultKeys.2 ⟨r, hr, hk⟩)
  rw [if_neg hne]

/-! ## Groups -/

/-- Putting counts to a group, when the groups are read off a function of their keys. -/
theorem insertGroup_map (k : String) (counts : List Int32) (f : String → List (List Int32))
    {ks : List String} (sorted : ks.Pairwise (· < ·)) (hf : k ∉ ks → f k = []) :
    insertGroup k counts (ks.map fun k' => (k', f k')) =
      (insertKey k ks).map fun k' => (k', if k' = k then f k ++ [counts] else f k') := by
  -- away from `k` nothing changes
  have away : ∀ l : List String, k ∉ l → (l.map fun k' => (k', f k')) =
      l.map fun k' => (k', if k' = k then f k ++ [counts] else f k') := by
    intro l hl
    refine List.map_congr_left fun a ha => ?_
    rw [if_neg (fun h : a = k => hl (h ▸ ha))]
  induction ks with
  | nil => simp [insertGroup, insertKey, hf]
  | cons a ks ih =>
    rw [List.pairwise_cons] at sorted
    rw [List.map_cons]
    rw [insertGroup, insertKey]
    by_cases ha : a = k
    · subst ha
      have hnot : a ∉ ks := fun h => lt_irrefl a (sorted.1 a h)
      simp only [if_true, List.map_cons, away ks hnot]
    · simp only [ha, if_false]
      by_cases hlt : k < a
      · have hnot : k ∉ a :: ks := by
          intro h
          rcases List.mem_cons.1 h with rfl | h
          · exact lt_irrefl k hlt
          · exact lt_irrefl k (hlt.trans (sorted.1 k h))
        have rest := away (a :: ks) hnot
        simp only [List.map_cons] at rest
        simp only [hlt, if_true, List.map_cons, hf hnot, List.nil_append, rest]
      · have hf' : k ∉ ks → f k = [] := fun h => hf (by simp [Ne.symm ha, h])
        simp only [hlt, if_false, List.map_cons, ih sorted.2 hf', ha]

theorem countsOn_append_singleton (results : List PredictorResult) (r : PredictorResult)
    (k : String) : countsOn (results ++ [r]) k =
      if metricKey? r = some k then countsOn results k ++ [r.counts] else countsOn results k := by
  simp only [countsOn]
  rw [List.filterMap_append]
  split <;> simp [*]

theorem groups_append_of_none {results : List PredictorResult} {r : PredictorResult}
    (h : splitPredictorKey? r.key = none) : groups (results ++ [r]) = groups results := by
  simp only [groups, List.foldl_append, List.foldl_cons, List.foldl_nil, h]

theorem groups_append_of_some {results : List PredictorResult} {r : PredictorResult}
    {k tag : String} (h : splitPredictorKey? r.key = some (k, tag)) :
    groups (results ++ [r]) = insertGroup k r.counts (groups results) := by
  simp only [groups, List.foldl_append, List.foldl_cons, List.foldl_nil, h]

/-- There is one group for each metric with results, and it holds what they ask for. -/
theorem groups_eq_map (results : List PredictorResult) :
    groups results = (resultKeys results).map fun k => (k, countsOn results k) := by
  induction results using List.reverseRecOn with
  | nil => rfl
  | append_singleton results r ih =>
    cases hk : splitPredictorKey? r.key with
    | none =>
      rw [groups_append_of_none hk, ih]
      have hkey : metricKey? r = none := by simp [metricKey?, hk]
      have hkeys : resultKeys (results ++ [r]) = resultKeys results := by
        simp [resultKeys, List.filterMap_append, hkey]
      simp [hkeys, countsOn_append_singleton, hkey]
    | some kt =>
      obtain ⟨k, tag⟩ := kt
      rw [groups_append_of_some hk, ih]
      have hkey : metricKey? r = some k := by simp [metricKey?, hk]
      have hkeys : resultKeys (results ++ [r]) = insertKey k (resultKeys results) := by
        simp [resultKeys, List.filterMap_append, hkey, List.foldl_append]
      rw [insertGroup_map k r.counts (countsOn results) (pairwise_resultKeys results)
        countsOn_eq_nil_of_notMem, hkeys]
      refine List.map_congr_left fun k' _ => ?_
      rw [countsOn_append_singleton]
      simp only [hkey, Option.some.injEq]
      by_cases h : k' = k
      · subst h; simp
      · simp [h, Ne.symm h]

/-! ## Another order of the results -/

theorem countsOn_perm {results results' : List PredictorResult} (h : results.Perm results')
    (k : String) : (countsOn results k).Perm (countsOn results' k) :=
  h.filterMap _

theorem resultKeys_perm {results results' : List PredictorResult} (h : results.Perm results') :
    resultKeys results = resultKeys results' := by
  have mem : ∀ k, k ∈ resultKeys results ↔ k ∈ resultKeys results' := by
    intro k
    simp only [mem_resultKeys, h.mem_iff]
  exact (pairwise_resultKeys results).eq_of_mem_iff (pairwise_resultKeys results') mem

end PredictiveScaling.Goal
