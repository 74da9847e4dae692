import PredictiveScaling.Simulation.Actions
import Mathlib.Data.List.Forall2
import Mathlib.Data.List.Sort
import Mathlib.Data.String.Basic

/-!
# The list of workloads

What there is to show is read from maps, which give up their entries in any order: the workloads,
and for each of them its collectors and its predictors. Whatever the orders, the answer lists each
workload once, with what is registered for it. Collectors and predictors stand in the order of
their keys, which are all different. Workloads stand in the order of their texts, which leave out
the kind, so where two texts are equal the order of the map shows: the answer depends only on what
is registered just when all workloads of one text are shown alike (`respond_workloads_iff`).
-/
namespace PredictiveScaling.Http

/-! ## Sorting by a text -/

section ByText

variable {α : Type} (key : α → String)

theorem pairwise_mergeSort_key (l : List α) :
    (l.mergeSort fun a b => key a ≤ key b).Pairwise fun a b => key a ≤ key b := by
  have sorted : (l.mergeSort fun a b => key a ≤ key b).Pairwise
      fun a b => decide (key a ≤ key b) = true :=
    List.pairwise_mergeSort (fun a b c => by simpa using le_trans)
      (fun a b => by simpa using le_total _ _) l
  simpa using sorted

/-- Where no two elements share a text, the order of the list is of no account. -/
theorem mergeSort_key_eq_of_perm {l l' : List α} (perm : l.Perm l')
    (apart : ∀ a ∈ l, ∀ b ∈ l, key a = key b → a = b) :
    (l.mergeSort fun a b => key a ≤ key b) = l'.mergeSort fun a b => key a ≤ key b := by
  refine List.Perm.eq_of_pairwise ?_ (pairwise_mergeSort_key key l)
    (pairwise_mergeSort_key key l')
    ((List.mergeSort_perm l _).trans (perm.trans (List.mergeSort_perm l' _).symm))
  intro a b ha hb hab hba
  rw [List.mem_mergeSort] at ha hb
  exact apart a ha b (perm.mem_iff.2 hb) (le_antisymm hab hba)

/-- Keys that are all different leave one order to sort into. -/
theorem mergeSort_key_eq_iff_perm {l l' : List α} (distinct : (l.map key).Nodup) :
    ((l.mergeSort fun a b => key a ≤ key b) = l'.mergeSort fun a b => key a ≤ key b) ↔
      l.Perm l' := by
  constructor
  · intro h
    exact (List.mergeSort_perm l _).symm.trans (h ▸ List.mergeSort_perm l' _)
  · intro h
    exact mergeSort_key_eq_of_perm key h fun a ha b hb =>
      List.inj_on_of_nodup_map distinct ha hb

/-- Elements with one text stay in the order they came in. -/
theorem filter_mergeSort_key (k : String) (l : List α) :
    (l.mergeSort fun a b => key a ≤ key b).filter (fun a => key a = k) =
      l.filter fun a => key a = k := by
  have tied : (l.filter fun a => key a = k).Pairwise fun a b => decide (key a ≤ key b) := by
    refine List.pairwise_of_forall_mem_list fun a ha b hb => ?_
    have hak : key a = k := by simpa using (List.mem_filter.1 ha).2
    have hbk : key b = k := by simpa using (List.mem_filter.1 hb).2
    simp [hak, hbk]
  have sub := (List.sublist_mergeSort (fun a b c => by simpa using le_trans)
    (fun a b => by simpa using le_total _ _) tied List.filter_sublist).filter fun a => key a = k
  rw [List.filter_filter] at sub
  simp only [Bool.and_self] at sub
  exact (sub.eq_of_length ((List.mergeSort_perm l _).filter _).length_eq.symm).symm

end ByText

theorem CollectorStatus.toDocument_injective :
    Function.Injective CollectorStatus.toDocument := by
  rintro ⟨k, n⟩ ⟨k', n'⟩ h
  simpa [toDocument, Json.Document.ofNat, Int.ofNat_inj] using h

theorem PredictorStatus.toDocument_injective : Function.Injective PredictorStatus.toDocument := by
  rintro ⟨k, tag, ready⟩ ⟨k', tag', ready'⟩ h
  simpa [toDocument] using h

namespace WorkloadStatus

/-! ## Orders of the maps -/

/-- No workload stands twice, and none has two collectors or two predictors under one key. -/
structure Distinct (l : List WorkloadStatus) : Prop where
  workloads : (l.map workload).Nodup
  collectors : ∀ s ∈ l, (s.collectors.map CollectorStatus.metricKey).Nodup
  predictors : ∀ s ∈ l, (s.predictors.map PredictorStatus.key).Nodup

/-- What is registered for one workload, in two orders of its maps. -/
structure Alike (s t : WorkloadStatus) : Prop where
  workload : s.workload = t.workload
  collectors : s.collectors.Perm t.collectors
  predictors : s.predictors.Perm t.predictors

/-- What is registered, in two orders of all maps. -/
def Reordered (l l' : List WorkloadStatus) : Prop :=
  ∃ m, List.Forall₂ Alike l m ∧ m.Perm l'

/-- Two workloads that are shown in the same way, their texts apart. -/
structure ShownAlike (s t : WorkloadStatus) : Prop where
  kind : s.workload.kind = t.workload.kind
  collectors : s.collectors.Perm t.collectors
  predictors : s.predictors.Perm t.predictors

theorem Alike.refl (s : WorkloadStatus) : Alike s s := ⟨rfl, .refl _, .refl _⟩

theorem Alike.shownAlike {s t : WorkloadStatus} (h : Alike s t) : ShownAlike s t :=
  ⟨h.workload ▸ rfl, h.collectors, h.predictors⟩

theorem alike_sorted (s : WorkloadStatus) : Alike s s.sorted :=
  ⟨rfl, (List.mergeSort_perm _ _).symm, (List.mergeSort_perm _ _).symm⟩

theorem Reordered.of_perm {l l' : List WorkloadStatus} (h : l.Perm l') : Reordered l l' :=
  ⟨l, List.forall₂_same.2 fun s _ => .refl s, h⟩

/-! ## One workload -/

@[simp] theorem workload_sorted (s : WorkloadStatus) : s.sorted.workload = s.workload := rfl

theorem toDocument_eq_iff {s t : WorkloadStatus} :
    s.toDocument = t.toDocument ↔ s.workload.text = t.workload.text ∧
      s.workload.kind = t.workload.kind ∧ s.collectors = t.collectors ∧
      s.predictors = t.predictors := by
  simp [toDocument, CollectorStatus.toDocument_injective.list_map.eq_iff,
    PredictorStatus.toDocument_injective.list_map.eq_iff]

/-- What a workload looks like tells its text, its kind and what is registered for it. -/
theorem toDocument_sorted_eq_iff {l : List WorkloadStatus} (distinct : Distinct l)
    {s t : WorkloadStatus} (hs : s ∈ l) :
    s.sorted.toDocument = t.sorted.toDocument ↔
      s.workload.text = t.workload.text ∧ ShownAlike s t := by
  rw [toDocument_eq_iff, workload_sorted, workload_sorted]
  refine and_congr_right fun _ => ?_
  simp only [sorted, mergeSort_key_eq_iff_perm _ (distinct.collectors s hs),
    mergeSort_key_eq_iff_perm _ (distinct.predictors s hs)]
  exact ⟨fun ⟨kind, collectors, predictors⟩ => ⟨kind, collectors, predictors⟩,
    fun ⟨kind, collectors, predictors⟩ => ⟨kind, collectors, predictors⟩⟩

/-! ## The list -/

theorem reordered_listing (l : List WorkloadStatus) : Reordered l (listing l) :=
  ⟨l.map sorted, List.forall₂_map_right_iff.2 (List.forall₂_same.2 fun s _ => alike_sorted s),
    (List.mergeSort_perm _ _).symm⟩

/-- A text with what is shown under it. -/
def entry (s : WorkloadStatus) : String × Json.Document := (s.workload.text, s.sorted.toDocument)

theorem map_toDocument_listing (l : List WorkloadStatus) :
    (listing l).map toDocument =
      ((l.map entry).mergeSort fun p q => p.1 ≤ q.1).map Prod.snd := by
  have entries : l.map entry = (l.map sorted).map fun s => (s.workload.text, s.toDocument) := by
    simp [entry]
  rw [entries, ← List.map_mergeSort (r := fun a b : WorkloadStatus =>
    a.workload.text ≤ b.workload.text) fun _ _ _ _ => rfl, List.map_map]
  rfl

theorem map_entry_perm {l l' : List WorkloadStatus} (distinct : Distinct l)
    (h : Reordered l l') : (l.map entry).Perm (l'.map entry) := by
  obtain ⟨m, alike, perm⟩ := h
  have same : l.map entry = m.map entry := by
    rw [← List.forall₂_eq_eq_eq, List.forall₂_map_left_iff, List.forall₂_map_right_iff]
    refine ((List.forall₂_and_left (p := (· ∈ l)) l m).2 ⟨fun _ hs => hs, alike⟩).imp ?_
    rintro s t ⟨hs, hst⟩
    have text : s.workload.text = t.workload.text := hst.workload ▸ rfl
    exact Prod.ext text ((toDocument_sorted_eq_iff distinct hs).2 ⟨text, hst.shownAlike⟩)
  exact same ▸ perm.map entry

/-- Workloads of one text that are shown alike can be exchanged. -/
theorem map_toDocument_listing_eq {l l' : List WorkloadStatus} (distinct : Distinct l)
    (tied : ∀ s ∈ l, ∀ t ∈ l, s.workload.text = t.workload.text → ShownAlike s t)
    (h : Reordered l l') : (listing l').map toDocument = (listing l).map toDocument := by
  rw [map_toDocument_listing, map_toDocument_listing,
    mergeSort_key_eq_of_perm Prod.fst (map_entry_perm distinct h)]
  rw [List.forall_mem_map]
  intro s hs
  rw [List.forall_mem_map]
  intro t ht text
  exact Prod.ext text ((toDocument_sorted_eq_iff distinct hs).2 ⟨text, tied s hs t ht text⟩)

/-- Workloads of one text are listed as they come in, so to exchange them is seen unless they
are shown alike. -/
theorem shownAlike_of_map_toDocument_listing_eq {l rest : List WorkloadStatus}
    {s t : WorkloadStatus} (distinct : Distinct l) (hs : s ∈ l)
    (text : s.workload.text = t.workload.text)
    (h : (listing (s :: t :: rest)).map toDocument = (listing (t :: s :: rest)).map toDocument) :
    ShownAlike s t := by
  have docs : List.Forall₂ (fun a b => a.toDocument = b.toDocument)
      (listing (s :: t :: rest)) (listing (t :: s :: rest)) := by
    rw [← List.forall₂_eq_eq_eq, List.forall₂_map_left_iff, List.forall₂_map_right_iff] at h
    exact h
  -- of the list only those of this text are kept, which the sorting leaves in their order
  have tied := List.rel_filter (p := fun a : WorkloadStatus => a.workload.text = s.workload.text)
    (q := fun a : WorkloadStatus => a.workload.text = s.workload.text)
    (fun a b hab => by simp [(toDocument_eq_iff.1 hab).1]) docs
  rw [listing, listing, filter_mergeSort_key, filter_mergeSort_key] at tied
  simp only [List.map_cons, workload_sorted, List.filter_cons, text, decide_true, if_true] at tied
  cases tied with
  | cons first _ => exact ((toDocument_sorted_eq_iff distinct hs).1 first).2

/-- The list is the same for every order of the maps just when all workloads of one text are
shown alike. -/
theorem forall_map_toDocument_listing_eq_iff {l : List WorkloadStatus} (distinct : Distinct l) :
    (∀ l', Reordered l l' → (listing l').map toDocument = (listing l).map toDocument) ↔
      ∀ s ∈ l, ∀ t ∈ l, s.workload.text = t.workload.text → ShownAlike s t := by
  refine ⟨fun h s hs t ht text => ?_, fun tied l' h => map_toDocument_listing_eq distinct tied h⟩
  by_cases hst : s = t
  · exact hst ▸ (Alike.refl s).shownAlike
  · obtain ⟨rest, first⟩ : ∃ rest, l.Perm (s :: t :: rest) := by
      have ht' : t ∈ l.erase s := (List.mem_erase_of_ne (Ne.symm hst)).2 ht
      exact ⟨(l.erase s).erase t, (List.perm_cons_erase hs).trans
        ((List.perm_cons_erase ht').cons s)⟩
    have exchanged : l.Perm (t :: s :: rest) := first.trans (.swap t s rest)
    have same := (h _ (.of_perm first)).trans (h _ (.of_perm exchanged)).symm
    exact shownAlike_of_map_toDocument_listing_eq distinct hs text same

end WorkloadStatus

open WorkloadStatus

/-! ## What a run has to show -/

theorem map_workload_workloadStatuses (s : Simulation) :
    s.workloadStatuses.map workload = s.registry.ids.keys := by
  rw [Simulation.workloadStatuses, List.map_map]
  refine List.map_congr_left fun e _ => ?_
  by_cases own : e.1 = s.controller.workload
  · simp [own, Simulation.ownStatus]
  · simp [own]

/-- The entries of its maps are what it shows, so none stands twice. -/
theorem distinct_workloadStatuses (s : Simulation) : Distinct s.workloadStatuses := by
  have status : ∀ t ∈ s.workloadStatuses,
      t = s.ownStatus ∨ t.collectors = [] ∧ t.predictors = [] := by
    intro t ht
    obtain ⟨e, -, rfl⟩ := List.mem_map.1 ht
    by_cases own : e.1 = s.controller.workload
    · exact .inl (if_pos own)
    · exact .inr (by simp [own])
  have collectors : (s.ownStatus.collectors.map CollectorStatus.metricKey).Nodup := by
    have keys : s.ownStatus.collectors.map CollectorStatus.metricKey =
        s.controller.store.collectors.keys := List.map_map
    exact keys ▸ s.controller.store.collectors.nodup_keys
  have predictors : (s.ownStatus.predictors.map PredictorStatus.key).Nodup := by
    have entries := List.pairwise_map.1 s.controller.store.predictors.nodup_keys
    refine List.pairwise_map.2 (List.pairwise_filterMap.2 (entries.imp fun apart => ?_))
    intro p hp p' hp'
    obtain ⟨_, -, rfl⟩ := Option.map_eq_some_iff.1 hp
    obtain ⟨_, -, rfl⟩ := Option.map_eq_some_iff.1 hp'
    exact apart
  refine ⟨map_workload_workloadStatuses s ▸ s.registry.ids.nodup_keys, ?_, ?_⟩
  · intro t ht
    rcases status t ht with rfl | ⟨none, -⟩
    · exact collectors
    · simp [none]
  · intro t ht
    rcases status t ht with rfl | ⟨-, none⟩
    · exact predictors
    · simp [none]

/-! ## The answer -/

theorem respond_workloads (c : Content) {request : Request}
    (path : request.target.path = "/workloads") (method : request.method = "GET") :
    respond c request = .workloads c := by
  simp [respond, routes, List.lookup_cons, path, method]

/-- However the maps give up their entries, the answer lists each workload once with what is
registered for it, in the order of the texts. It is the same for all orders just when all
workloads of one text have one kind and the same collectors and predictors. -/
theorem respond_workloads_iff (c : Content) (request : Request) (distinct : Distinct c.workloads)
    (path : request.target.path = "/workloads") (method : request.method = "GET") :
    (∃ shown, Reordered c.workloads shown ∧
      shown.Pairwise (fun s t => s.workload.text ≤ t.workload.text) ∧
      respond c request = .json 200 (.array (shown.map toDocument))) ∧
    ((∀ l, Reordered c.workloads l →
        respond { c with workloads := l } request = respond c request) ↔
      ∀ s ∈ c.workloads, ∀ t ∈ c.workloads,
        s.workload.text = t.workload.text → ShownAlike s t) := by
  refine ⟨⟨listing c.workloads, reordered_listing _, pairwise_mergeSort_key _ _,
    respond_workloads c path method⟩, ?_⟩
  rw [← forall_map_toDocument_listing_eq_iff distinct]
  refine forall₂_congr fun l _ => ?_
  simp [respond_workloads _ path method, Response.workloads, Response.json]

/-- Two workloads that only their kinds tell apart. -/
def twins : List WorkloadStatus :=
  [⟨⟨"default", "web", "Deployment"⟩, [], []⟩, ⟨⟨"default", "web", "StatefulSet"⟩, [], []⟩]

theorem distinct_twins : Distinct twins :=
  ⟨by decide, by decide, by decide⟩

/-- For twins the order of the map shows in the answer. -/
theorem respond_workloads_iff_twins :
    Distinct twins ∧ ∃ l, Reordered twins l ∧
      respond ⟨.empty, l⟩ ⟨"GET", ⟨"/workloads", none⟩⟩ ≠
        respond ⟨.empty, twins⟩ ⟨"GET", ⟨"/workloads", none⟩⟩ := by
  refine ⟨distinct_twins, ?_⟩
  by_contra! same
  have alike := (respond_workloads_iff ⟨.empty, twins⟩ ⟨"GET", ⟨"/workloads", none⟩⟩
    distinct_twins rfl rfl).2.1 same
  have kinds := (alike _ (.head _) _ (.tail _ (.head _)) rfl).kind
  exact absurd kinds (by decide)

/-- In one order of the map the one twin comes first, in the other order the other one. -/
theorem respond_twins_ne_reverse :
    Reordered twins twins.reverse ∧
      respond ⟨.empty, twins⟩ ⟨"GET", ⟨"/workloads", none⟩⟩ ≠
        respond ⟨.empty, twins.reverse⟩ ⟨"GET", ⟨"/workloads", none⟩⟩ := by
  refine ⟨.of_perm (List.reverse_perm twins).symm, ?_⟩
  have inOrder : listing twins = twins := by
    rw [listing, List.mergeSort_of_pairwise (by decide)]
    simp [twins, sorted]
  have reversed : listing twins.reverse = twins.reverse := by
    rw [listing, List.mergeSort_of_pairwise (by decide)]
    simp [twins, sorted]
  rw [respond_workloads _ rfl rfl, respond_workloads _ rfl rfl, Response.workloads,
    Response.workloads, inOrder, reversed]
  simp [Response.json, twins, toDocument]

end PredictiveScaling.Http
