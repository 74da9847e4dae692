import PredictiveScaling.Proofs.Health.Presence

/-!
# Workloads that share a registry

All controllers report to one registry, each under the names of its own workload and metrics. A
controller writes or takes away just what has one of these names, whatever the others do in
between. So two workloads leave each other alone if and only if no name of the one is a name of
the other. That is not so for all that are different: of a workload itself only the text counts, and
of its collectors only the keys of their metrics.
-/
namespace PredictiveScaling

/-- Only these metrics are installed. -/
def Turn.Within (metrics : List Metric) : Turn → Prop
  | .install metric _ _ => metric ∈ metrics
  | _ => True

/-- The controller of a workload, with loops for these metrics. -/
structure Rota.Serves (p : Rota) (w : Workload) (metrics : List Metric) : Prop where
  sound : p.Sound
  own_eq : p.own = w.ownComponents
  keys : ∀ i l, p.loops.get? i = some l → ∃ m ∈ metrics, m.key = l.key

namespace Controller

variable {c : Controller} {w : Workload} {metrics : List Metric} {name : String}

theorem serves_turn (h : c.rota.Serves w metrics) {x : Moment × Turn}
    (within : x.2.Within metrics) : (c.turn x).1.rota.Serves w metrics := by
  have effect := c.rota_turn x
  refine ⟨h.sound.effect effect, effect.own_eq.trans h.own_eq, fun i l' found' => ?_⟩
  rcases effect.exists_origin h.sound.names found' with
    ⟨l, found, becomes⟩ | ⟨metric, specs, config, n, hx, -, rfl⟩
  · rw [becomes.job.2.1]
    exact h.keys i l found
  · rw [hx] at within
    exact ⟨metric, within, rfl⟩

/-- What has another name is left as it is. -/
theorem find?_components_of_serves (h : c.rota.Serves w metrics)
    (other : name ∉ w.components metrics) (x : Moment × Turn) :
    (c.turn x).1.health.components.find? name = c.health.components.find? name := by
  have hown : c.workload.ownComponents = w.ownComponents := h.own_eq
  rw [find?_components_turn c x (hown ▸ fun own => other (List.mem_append_left _ own))]
  cases written : c.writing? x with
  | none => rfl
  | some a =>
    obtain ⟨l, found, hkey, -⟩ := Rota.exists_loop_of_written? written
    obtain ⟨m, mem, hm⟩ := h.keys a.loop l found
    refine if_neg fun same => other (Workload.mem_components_iff.2 (.inr (.inr ⟨m, mem, ?_⟩)))
    rw [hm, hkey, same]

/-- A turn once others have left the registry like this. -/
def turnAmid (c : Controller) (x : HealthRegistry × Moment × Turn) : Controller :=
  (({ c with health := x.1 } : Controller).turn x.2).1

theorem serves_withHealth (h : c.rota.Serves w metrics) (health : HealthRegistry) :
    ({ c with health } : Controller).rota.Serves w metrics :=
  ⟨⟨h.sound.names, h.sound.reports⟩, h.own_eq, h.keys⟩

theorem serves_foldl_turnAmid (h : c.rota.Serves w metrics)
    {xs : List (HealthRegistry × Moment × Turn)} (within : ∀ x ∈ xs, x.2.2.Within metrics) :
    (xs.foldl turnAmid c).rota.Serves w metrics := by
  induction xs generalizing c with
  | nil => exact h
  | cons x xs ih =>
    rw [List.forall_mem_cons] at within
    exact ih (serves_turn (serves_withHealth h x.1) within.1) within.2

end Controller

namespace Workload

/-- Whether a workload with these metrics leaves what has this name as it is: when it is registered,
and whenever something happens to its controller, whatever becomes of the registry in between. -/
def Spares (w : Workload) (metrics : List Metric) (name : String) : Prop :=
  (∀ (r : HealthRegistry) now,
    (r.registerWorkload now w).components.find? name = r.components.find? name) ∧
  ∀ instanceName scaler evaluation (xs : List (HealthRegistry × Moment × Turn)) x,
    (∀ y ∈ xs, y.2.2.Within metrics) → x.2.2.Within metrics →
      ((xs.foldl Controller.turnAmid
        (.new instanceName w scaler evaluation)).turnAmid x).health.components.find? name =
          x.1.components.find? name

variable {w w' : Workload} {metrics metrics' : List Metric} {name : String}

theorem spares_of_notMem (other : name ∉ w.components metrics) : w.Spares metrics name := by
  constructor
  · intro r now
    have hne : ∀ own ∈ w.ownComponents, own ≠ name :=
      fun own mem same => other (List.mem_append_left _ (same ▸ mem))
    have hscaler := hne (scalerComponent w) (List.mem_cons_of_mem _ List.mem_cons_self)
    have hscheduler := hne (schedulerComponent w) List.mem_cons_self
    exact (KeyMap.find?_insert_of_ne _ hscaler _).trans (KeyMap.find?_insert_of_ne _ hscheduler _)
  · intro instanceName scaler evaluation xs x within _
    have start : (Controller.new instanceName w scaler evaluation).rota.Serves w metrics :=
      ⟨Controller.rota_sound_new instanceName w scaler evaluation, rfl, nofun⟩
    exact Controller.find?_components_of_serves
      (Controller.serves_withHealth (Controller.serves_foldl_turnAmid start within) x.1) other x.2

/-- A workload is registered under its own names. -/
theorem not_spares_own (own : name ∈ w.ownComponents) : ¬ w.Spares metrics name := by
  rintro ⟨registers, -⟩
  have registered : (HealthRegistry.empty.registerWorkload 0 w).components.find? name = none :=
    registers .empty 0
  simp only [HealthRegistry.registerWorkload, HealthRegistry.register, HealthRegistry.setHealthy,
    HealthRegistry.update, KeyMap.find?_insert] at registered
  rw [ownComponents, List.mem_cons, List.mem_singleton] at own
  rcases own with rfl | rfl
  · split at registered
    · cases registered
    · rw [if_pos rfl] at registered
      cases registered
  · rw [if_pos rfl] at registered
    cases registered

/-- A loop registers the collector of its metric. -/
theorem not_spares_collector {m : Metric} (mem : m ∈ metrics) :
    ¬ w.Spares metrics (collectorComponent m.key) := by
  rintro ⟨-, spares⟩
  let c := (Controller.new "" w default .default).turnAmid (.empty, ⟨0, 0⟩, .install m [] .default)
  obtain ⟨n, -, found⟩ := (Controller.rota_turn (Controller.new "" w default .default)
    (⟨0, 0⟩, .install m [] .default)).installed nofun rfl
  have found : c.rota.loops.get? 0 = some (.new n m.key .default true) := found
  obtain ⟨z, a, written, -, hkey, reported⟩ := Rota.exists_written?_of_underWay
    ({ c with now := ⟨0, 0⟩ } : Controller).seconds found rfl (.inl rfl)
  have hkey : a.key = m.key := hkey
  have absent : c.health.components.find? (collectorComponent m.key) = none :=
    spares "" default .default [] (.empty, ⟨0, 0⟩, .install m [] .default) nofun mem
  have unchanged : (c.turn (⟨0, 0⟩, .event z)).1.health.components.find?
      (collectorComponent m.key) = c.health.components.find? (collectorComponent m.key) :=
    spares "" default .default [(.empty, ⟨0, 0⟩, .install m [] .default)]
      (c.health, ⟨0, 0⟩, .event z) (List.forall_mem_singleton.2 mem) trivial
  have written : c.writing? (⟨0, 0⟩, .event z) = some a := written
  rw [c.find?_components_turn _ (collectorComponent_notMem_ownComponents _ m.key), written,
    Controller.known, hkey, if_pos rfl, absent] at unchanged
  cases unchanged ▸ reported

theorem spares_iff : w.Spares metrics name ↔ name ∉ w.components metrics := by
  refine ⟨fun spares ours => ?_, spares_of_notMem⟩
  rcases List.mem_append.1 ours with own | collector
  · exact not_spares_own own spares
  · obtain ⟨m, mem, rfl⟩ := List.mem_map.1 collector
    exact not_spares_collector mem spares

/-- A workload leaves all that belongs to another one alone if and only if their texts differ and
they have no keys of metrics in common. -/
theorem spares_components_iff (w w' : Workload) (metrics metrics' : List Metric) :
    (∀ name ∈ w'.components metrics', w.Spares metrics name) ↔
      w.text ≠ w'.text ∧ ∀ m ∈ metrics, ∀ m' ∈ metrics', m.key ≠ m'.key := by
  rw [← disjoint_components_iff]
  exact forall₂_congr fun name _ => spares_iff

/-- The kind does not show in the text, and neither does which slash is the mark. -/
example : (⟨"default", "web", "Deployment"⟩ : Workload).text =
      (⟨"default", "web", "StatefulSet"⟩ : Workload).text ∧
    (⟨"a/b", "c", ""⟩ : Workload).text = (⟨"a", "b/c", ""⟩ : Workload).text := by decide

end Workload

end PredictiveScaling
