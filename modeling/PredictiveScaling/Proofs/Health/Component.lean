import PredictiveScaling.Health
import PredictiveScaling.Metric
import Mathlib.Data.List.Basic

/-!
# Names of components

A component is named by its part and by what it belongs to, with a colon in between. Parts have
no colon, so the names of two parts never meet, and within a part a name says what the component
belongs to. Of a workload that is its text, where the kind is left out and a slash may be
anywhere; of a collector it is the key of its metric, where the workload is left out.
-/
namespace PredictiveScaling

theorem append_first_inj {α : Type} {x : α} {l l' r r' : List α} (h : x ∉ l) (h' : x ∉ l') :
    l ++ x :: r = l' ++ x :: r' ↔ l = l' ∧ r = r' := by
  refine ⟨fun same => ?_, by rintro ⟨rfl, rfl⟩; rfl⟩
  induction l generalizing l' with
  | nil =>
    cases l' with
    | nil => exact ⟨rfl, (List.cons.inj same).2⟩
    | cons y l' => exact absurd (List.cons.inj same).1 (List.ne_of_not_mem_cons h')
  | cons y l ih =>
    cases l' with
    | nil => exact absurd (List.cons.inj same).1.symm (List.ne_of_not_mem_cons h)
    | cons y' l' =>
      rw [List.cons_append, List.cons_append, List.cons.injEq] at same
      rw [List.mem_cons, not_or] at h h'
      obtain ⟨rfl, rfl⟩ := ih h.2 h'.2 same.2
      exact ⟨congrArg (· :: l) same.1, rfl⟩

/-- Texts with a mark in between are told apart by what is before the first mark. -/
theorem append_mark_inj {mark before before' after after' : String} {m : Char}
    (hmark : mark.toList = [m]) (h : m ∉ before.toList) (h' : m ∉ before'.toList) :
    before ++ mark ++ after = before' ++ mark ++ after' ↔ before = before' ∧ after = after' := by
  rw [← String.toList_inj]
  simp only [String.toList_append, hmark, List.append_assoc, List.singleton_append]
  rw [append_first_inj h h', String.toList_inj, String.toList_inj]

theorem scopedName_inj {part part' owner owner' : String} (h : ':' ∉ part.toList)
    (h' : ':' ∉ part'.toList) :
    scopedName part owner = scopedName part' owner' ↔ part = part' ∧ owner = owner' :=
  append_mark_inj rfl h h'

theorem collectorComponent_inj {key key' : String} :
    collectorComponent key = collectorComponent key' ↔ key = key' :=
  (scopedName_inj (by decide) (by decide)).trans (and_iff_right rfl)

theorem schedulerComponent_inj {w w' : Workload} :
    schedulerComponent w = schedulerComponent w' ↔ w.text = w'.text :=
  (scopedName_inj (by decide) (by decide)).trans (and_iff_right rfl)

theorem scalerComponent_inj {w w' : Workload} :
    scalerComponent w = scalerComponent w' ↔ w.text = w'.text :=
  (scopedName_inj (by decide) (by decide)).trans (and_iff_right rfl)

namespace Workload

/-- What is reported of a workload itself: how it is evaluated, and how it is scaled. -/
def ownComponents (w : Workload) : List String := [schedulerComponent w, scalerComponent w]

/-- All that is reported of a workload with these metrics. -/
def components (w : Workload) (metrics : List Metric) : List String :=
  w.ownComponents ++ metrics.map fun m => collectorComponent m.key

variable {w w' : Workload} {key : String}

theorem collectorComponent_notMem_ownComponents (w : Workload) (key : String) :
    collectorComponent key ∉ w.ownComponents := by
  rw [ownComponents, List.mem_cons, List.mem_singleton]
  rintro (same | same)
  · exact absurd ((scopedName_inj (by decide) (by decide)).1 same).1 (by decide)
  · exact absurd ((scopedName_inj (by decide) (by decide)).1 same).1 (by decide)

theorem schedulerComponent_ne_scalerComponent (w w' : Workload) :
    schedulerComponent w ≠ scalerComponent w' := by
  intro same
  exact absurd ((scopedName_inj (by decide) (by decide)).1 same).1 (by decide)

theorem mem_components_iff {metrics : List Metric} {name : String} :
    name ∈ w.components metrics ↔ name = schedulerComponent w ∨ name = scalerComponent w ∨
      ∃ m ∈ metrics, collectorComponent m.key = name := by
  rw [components, ownComponents, List.mem_append, List.mem_cons, List.mem_singleton,
    List.mem_map, or_assoc]

/-- Two workloads have no component in common if and only if their texts differ and no metric of
the one has the key of a metric of the other. -/
theorem disjoint_components_iff {metrics metrics' : List Metric} :
    (∀ name ∈ w'.components metrics', name ∉ w.components metrics) ↔
      w.text ≠ w'.text ∧ ∀ m ∈ metrics, ∀ m' ∈ metrics', m.key ≠ m'.key := by
  constructor
  · intro disjoint
    refine ⟨fun same => ?_, fun m mem m' mem' same => ?_⟩
    · refine disjoint (schedulerComponent w') (mem_components_iff.2 (.inl rfl)) ?_
      exact mem_components_iff.2 (.inl (schedulerComponent_inj.2 same.symm))
    · refine disjoint (collectorComponent m'.key)
        (mem_components_iff.2 (.inr (.inr ⟨m', mem', rfl⟩))) ?_
      exact mem_components_iff.2 (.inr (.inr ⟨m, mem, collectorComponent_inj.2 same⟩))
  · rintro ⟨texts, keys⟩ name theirs ours
    have hcollector : ∀ (w : Workload) key, collectorComponent key ≠ schedulerComponent w ∧
        collectorComponent key ≠ scalerComponent w := by
      intro w key
      have other := w.collectorComponent_notMem_ownComponents key
      rw [ownComponents, List.mem_cons, List.mem_singleton, not_or] at other
      exact other
    rw [mem_components_iff] at theirs ours
    rcases theirs with rfl | rfl | ⟨m', mem', rfl⟩
    · rcases ours with same | same | ⟨m, -, same⟩
      · exact texts (schedulerComponent_inj.1 same).symm
      · exact schedulerComponent_ne_scalerComponent w' w same
      · exact (hcollector w' m.key).1 same
    · rcases ours with same | same | ⟨m, -, same⟩
      · exact schedulerComponent_ne_scalerComponent w w' same.symm
      · exact texts (scalerComponent_inj.1 same).symm
      · exact (hcollector w' m.key).2 same
    · rcases ours with same | same | ⟨m, mem, same⟩
      · exact (hcollector w m'.key).1 same
      · exact (hcollector w m'.key).2 same
      · exact keys m mem m' mem' (collectorComponent_inj.1 same)

/-- Without slashes in the namespaces, a text tells workloads apart but for their kinds. -/
theorem text_inj (h : '/' ∉ w.space.toList) (h' : '/' ∉ w'.space.toList) :
    w.text = w'.text ↔ w.space = w'.space ∧ w.name = w'.name :=
  append_mark_inj rfl h h'

end Workload

end PredictiveScaling
