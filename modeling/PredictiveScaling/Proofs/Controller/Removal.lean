import PredictiveScaling.Proofs.Controller.Consistency
import PredictiveScaling.Proofs.Controller.Polling

/-!
# Removed metrics

A collector that was replaced or removed is never registered again, for a later one comes
under a number of its own. As a loop asks for its collector and not just for its key before it
begins a query, it begins none any more, however the key is used from then on. A query that had
begun may still end, and what it brings goes to the old collector
(`Controller.queries_registered_only`).
-/
namespace PredictiveScaling

namespace Polling

/-! ## Loops and their collectors -/

/-- Collectors are registered under their own keys while their metrics are there, and every
loop has a collector for itself. -/
structure Sound (p : Polling) : Prop where
  installed : ∀ key n, p.registered.find? key = some n → p.metrics.contains key = true
  registered_key : ∀ key n, p.registered.find? key = some n →
    (p.collectors.get? n).map Collector.key = some key
  loop_key : ∀ i l, p.loops.get? i = some l →
    (p.collectors.get? l.collector).map Collector.key = some l.key
  eq_of_collector : ∀ i j l l', p.loops.get? i = some l → p.loops.get? j = some l' →
    l.collector = l'.collector → i = j

/-- A collector that was registered once and is not any more. -/
structure Gone (p : Polling) (n : Nat) : Prop where
  lt_size : n < p.collectors.size
  unregistered : ∀ key, p.registered.find? key ≠ some n

/-- A query for a collector has begun and not ended. -/
def inFlight (p : Polling) (n : Nat) : Bool :=
  p.loops.toList.any fun l => decide (l.phase = .querying ∧ l.collector = n)

variable {p p' : Polling} {x : Turn} {n : Nat} {key : String}

theorem inFlight_iff : p.inFlight n = true ↔
    ∃ i l, p.loops.get? i = some l ∧ l.phase = .querying ∧ l.collector = n := by
  rw [inFlight, List.any_eq_true]
  constructor
  · rintro ⟨l, mem, h⟩
    obtain ⟨i, found⟩ := List.mem_iff_getElem?.1 mem
    exact ⟨i, l, found, of_decide_eq_true h⟩
  · rintro ⟨i, l, found, h⟩
    exact ⟨l, List.mem_of_getElem? found, decide_eq_true h⟩

theorem lt_size_of_key (h : (p.collectors.get? n).map Collector.key = some key) :
    n < p.collectors.size := by
  obtain ⟨a, found, -⟩ := Option.map_eq_some_iff.1 h
  exact Arena.lt_size_of_get? found

theorem registered_of_without {metricKey : String}
    (h : (p.without metricKey).registered.find? key = some n) :
    metricKey ≠ key ∧ p.registered.find? key = some n := by
  rw [without, KeyMap.find?_erase] at h
  split at h
  · cases h
  · next other => exact ⟨other, h⟩

theorem registered_of_put {metric : Metric} {config : CollectionConfig}
    (h : (p.put metric config).registered.find? key = some n) :
    metric.key = key ∧ n = p.collectors.size ∨ p.registered.find? key = some n := by
  rw [put, KeyMap.find?_insert] at h
  split at h
  · next same => exact .inl ⟨same, (Option.some.inj h).symm⟩
  · exact .inr h

namespace Sound

/-- Loops go on for their collectors, and these may take in samples. -/
theorem of_loops (h : p.Sound) (metrics_eq : p'.metrics = p.metrics)
    (registered_eq : p'.registered = p.registered)
    (keys_eq : ∀ n, (p'.collectors.get? n).map Collector.key =
      (p.collectors.get? n).map Collector.key)
    (exists_loop : ∀ i l', p'.loops.get? i = some l' → ∃ l, p.loops.get? i = some l ∧
      l'.collector = l.collector ∧ l'.key = l.key) : p'.Sound := by
  refine ⟨?_, ?_, ?_, ?_⟩
  · rw [metrics_eq, registered_eq]
    exact h.installed
  · intro key n registered
    rw [registered_eq] at registered
    rw [keys_eq]
    exact h.registered_key key n registered
  · intro i l' found'
    obtain ⟨l, found, hcollector, hkey⟩ := exists_loop i l' found'
    rw [keys_eq, hcollector, hkey]
    exact h.loop_key i l found
  · intro i j l l' hi hj same
    obtain ⟨l₀, found, hcollector, -⟩ := exists_loop i l hi
    obtain ⟨l₀', found', hcollector', -⟩ := exists_loop j l' hj
    exact h.eq_of_collector i j l₀ l₀' found found'
      (hcollector.symm.trans (same.trans hcollector'))

theorem rests (h : p.Sound) (rests : p.Rests p') : p'.Sound := by
  refine h.of_loops rests.metrics_eq rests.registered_eq (fun n => by rw [rests.collectors_eq]) ?_
  intro i l' found'
  obtain ⟨l, found, hcollector, hkey, -⟩ := rests.exists_loop i l' found'
  exact ⟨l, found, hcollector, hkey⟩

/-- One loop changes, but not what it works for. -/
theorem exists_loop_modify {id : Nat} {l l' : CollectionLoop} (found : p.loops.get? id = some l)
    (collector_eq : l'.collector = l.collector) (key_eq : l'.key = l.key) :
    ∀ i l'', (p.loops.modify id fun _ => l').get? i = some l'' → ∃ l, p.loops.get? i = some l ∧
      l''.collector = l.collector ∧ l''.key = l.key := by
  intro i l'' changed
  rcases exists_loop_of_modify found changed with ⟨rfl, rfl⟩ | ⟨-, same⟩
  · exact ⟨l, found, collector_eq, key_eq⟩
  · exact ⟨l'', same, rfl, rfl⟩

theorem without (h : p.Sound) (metricKey : String) : (p.without metricKey).Sound := by
  refine ⟨?_, ?_, h.loop_key, h.eq_of_collector⟩
  · intro key n registered
    obtain ⟨other, registered⟩ := registered_of_without registered
    rw [Polling.without, KeyMap.contains_erase, h.installed key n registered]
    simp only [other, decide_false, Bool.not_false, Bool.and_self]
  · intro key n registered
    exact h.registered_key key n (registered_of_without registered).2

theorem cleared (h : p.Sound) (metricKey : String) : (p.cleared metricKey).Sound := by
  rw [Polling.cleared]
  split
  · exact h.without metricKey
  · exact h

/-- The new collector has no loop yet. -/
theorem put (h : p.Sound) (metric : Metric) (config : CollectionConfig) :
    (p.put metric config).Sound := by
  have hloops : ∀ i l, (p.put metric config).loops.get? i = some l →
      i = p.loops.size ∧ l = .new p.collectors.size metric.key config true ∨
        p.loops.get? i = some l ∧ l.collector < p.collectors.size := by
    intro i l found
    rw [Polling.put, Arena.get?_push] at found
    split at found
    · next last => exact .inl ⟨last, (Option.some.inj found).symm⟩
    · exact .inr ⟨found, lt_size_of_key (h.loop_key i l found)⟩
  have hnew : ((p.put metric config).collectors.get? p.collectors.size).map Collector.key =
      some metric.key := by
    rw [Polling.put, Arena.get?_push_self]
    rfl
  refine ⟨?_, ?_, ?_, ?_⟩
  · intro key n registered
    rw [Polling.put, KeyMap.contains_insert]
    rcases registered_of_put registered with ⟨same, -⟩ | registered
    · simp only [same, decide_true, Bool.true_or]
    · rw [h.installed key n registered, Bool.or_true]
  · intro key n registered
    rcases registered_of_put registered with ⟨rfl, rfl⟩ | registered
    · exact hnew
    · exact Controller.collector?_push (h.registered_key key n registered) _
  · intro i l found
    rcases hloops i l found with ⟨-, rfl⟩ | ⟨found, -⟩
    · exact hnew
    · exact Controller.collector?_push (h.loop_key i l found) _
  · intro i j l l' hi hj same
    rcases hloops i l hi with ⟨rfl, rfl⟩ | ⟨hi, hlt⟩ <;>
      rcases hloops j l' hj with ⟨rfl, rfl⟩ | ⟨hj, hlt'⟩
    · rfl
    · exact absurd (same ▸ hlt') (Nat.lt_irrefl _)
    · exact absurd (same ▸ hlt) (Nat.lt_irrefl _)
    · exact h.eq_of_collector i j l l' hi hj same

theorem effect (h : p.Sound) (effect : p.Effect x p') : p'.Sound := by
  cases effect with
  | rests _ _ rests => exact h.rests rests
  | asks found _ _ collector_eq key_eq =>
    exact h.of_loops rfl rfl (fun _ => rfl) (exists_loop_modify found collector_eq key_eq)
  | answers found _ collector_eq key_eq _ =>
    refine h.of_loops rfl rfl ?_ (exists_loop_modify found collector_eq key_eq)
    intro n
    rw [Arena.get?_modify]
    split
    · rw [Option.map_map]
      exact congrArg (Option.map · _) (funext fun a => a.key_serve _)
    · rfl
  | removes rests => exact (h.without _).rests rests
  | fails rests => exact (h.cleared _).rests rests
  | installs rests₁ rests => exact (((h.cleared _).rests rests₁).put _ _).rests rests

end Sound

/-! ## Collectors that are gone -/

namespace Gone

theorem rests (h : p.Gone n) (rests : p.Rests p') : p'.Gone n := by
  refine ⟨?_, ?_⟩
  · rw [rests.collectors_eq]
    exact h.lt_size
  · rw [rests.registered_eq]
    exact h.unregistered

theorem without (h : p.Gone n) (metricKey : String) : (p.without metricKey).Gone n := by
  refine ⟨h.lt_size, fun key registered => ?_⟩
  exact h.unregistered key (registered_of_without registered).2

theorem cleared (h : p.Gone n) (metricKey : String) : (p.cleared metricKey).Gone n := by
  rw [Polling.cleared]
  split
  · exact h.without metricKey
  · exact h

/-- A new collector comes under a new number. -/
theorem put (h : p.Gone n) (metric : Metric) (config : CollectionConfig) :
    (p.put metric config).Gone n := by
  refine ⟨?_, fun key registered => ?_⟩
  · rw [Polling.put, Arena.size_push]
    exact Nat.lt_succ_of_lt h.lt_size
  · rcases registered_of_put registered with ⟨-, rfl⟩ | registered
    · exact Nat.lt_irrefl _ h.lt_size
    · exact h.unregistered key registered

theorem effect (h : p.Gone n) (effect : p.Effect x p') : p'.Gone n := by
  cases effect with
  | rests _ _ rests => exact h.rests rests
  | asks => exact ⟨h.lt_size, h.unregistered⟩
  | answers =>
    refine ⟨?_, h.unregistered⟩
    rw [Arena.size_modify]
    exact h.lt_size
  | removes rests => exact (h.without _).rests rests
  | fails rests => exact (h.cleared _).rests rests
  | installs rests₁ rests => exact (((h.cleared _).rests rests₁).put _ _).rests rests

end Gone

/-- When a metric goes, so does its collector, which is registered under no other key. -/
theorem Sound.gone_without (h : p.Sound) (registered : p.registered.find? key = some n) :
    (p.without key).Gone n := by
  have hkey := h.registered_key key n registered
  refine ⟨lt_size_of_key hkey, fun key' registered' => ?_⟩
  obtain ⟨other, registered'⟩ := registered_of_without registered'
  exact other (Option.some.inj (hkey.symm.trans (h.registered_key key' n registered')))

theorem Sound.gone_cleared (h : p.Sound) (registered : p.registered.find? key = some n) :
    (p.cleared key).Gone n := by
  rw [Polling.cleared, if_pos (h.installed key n registered)]
  exact h.gone_without registered

/-- Removing or replacing, even if it fails, is the end of what was registered. -/
theorem Sound.gone_of_replaces (h : p.Sound) (effect : p.Effect x p')
    (replaces : x.replaces? = some key) (registered : p.registered.find? key = some n) :
    p'.Gone n := by
  cases effect with
  | rests keeps _ _ => cases keeps.symm.trans replaces
  | asks => cases replaces
  | answers => cases replaces
  | removes rests =>
    cases replaces
    exact (h.gone_without registered).rests rests
  | fails rests =>
    cases replaces
    exact (h.gone_cleared registered).rests rests
  | installs rests₁ rests =>
    cases replaces
    exact (((h.gone_cleared registered).rests rests₁).put _ _).rests rests

/-! ## Queries -/

/-- Whether a turn ends a query for a collector. -/
def ends (p : Polling) (n : Nat) (x : Turn) : Bool :=
  (p.ended? x).any fun e => decide (e.1 = n)

theorem inFlight_cleared (p : Polling) (metricKey : String) (n : Nat) :
    (p.cleared metricKey).inFlight n = p.inFlight n := by
  rw [inFlight, loops_cleared, ← inFlight]

/-- A turn begins a query for a registered collector, or none. -/
theorem Effect.queries (effect : p.Effect x p') : p'.queries = p.queries ∨
    ∃ id l, x = .event (.collectionDue id) ∧ p.loops.get? id = some l ∧ l.phase = .waiting ∧
      p.registered.find? l.key = some l.collector ∧
      p'.queries = p.queries ++ [(id, l.collector)] := by
  cases effect with
  | rests _ _ rests => exact .inl rests.queries_eq
  | asks found waiting registered _ _ =>
    exact .inr ⟨_, _, rfl, found, waiting, registered, rfl⟩
  | answers => exact .inl rfl
  | removes rests => exact .inl rests.queries_eq
  | fails rests => exact .inl (rests.queries_eq.trans (p.queries_cleared _))
  | installs rests₁ rests =>
    exact .inl (rests.queries_eq.trans (rests₁.queries_eq.trans (p.queries_cleared _)))

theorem Effect.queries_of_replaces (effect : p.Effect x p') (replaces : x.replaces? = some key) :
    p'.queries = p.queries := by
  rcases effect.queries with none_new | ⟨id, l, rfl, -⟩
  · exact none_new
  · cases replaces

theorem Gone.queries (h : p.Gone n) (effect : p.Effect x p') (idle : p.queries = []) :
    ∀ i, (i, n) ∉ p'.queries := by
  intro i mem
  rcases effect.queries with none_new | ⟨id, l, -, -, -, registered, one_new⟩
  · rw [none_new, idle] at mem
    cases mem
  · rw [one_new, idle, List.nil_append, List.mem_singleton] at mem
    cases mem
    exact h.unregistered l.key registered

theorem Rests.inFlight (rests : p.Rests p') (h : p'.inFlight n = true) : p.inFlight n = true := by
  obtain ⟨i, l', found', querying, collector⟩ := inFlight_iff.1 h
  obtain ⟨l, found, hcollector, -, hphase⟩ := rests.exists_loop i l' found'
  exact inFlight_iff.2 ⟨i, l, found, hphase querying, hcollector.symm.trans collector⟩

theorem inFlight_put {metric : Metric} {config : CollectionConfig}
    (h : (p.put metric config).inFlight n = true) : p.inFlight n = true := by
  obtain ⟨i, l, found, querying, collector⟩ := inFlight_iff.1 h
  rw [put, Arena.get?_push] at found
  split at found
  · obtain rfl := Option.some.inj found
    cases querying
  · exact inFlight_iff.2 ⟨i, l, found, querying, collector⟩

/-- One loop changes. A query in flight is one of this loop or was so before. -/
theorem inFlight_of_modify {id : Nat} {l l' : CollectionLoop} (found : p.loops.get? id = some l)
    (loops_eq : p'.loops = p.loops.modify id fun _ => l') (h : p'.inFlight n = true) :
    (l'.phase = .querying ∧ l'.collector = n) ∨ ∃ i l'', i ≠ id ∧ p.loops.get? i = some l'' ∧
      l''.phase = .querying ∧ l''.collector = n := by
  obtain ⟨i, l'', changed, querying, collector⟩ := inFlight_iff.1 h
  rw [loops_eq] at changed
  rcases exists_loop_of_modify found changed with ⟨-, rfl⟩ | ⟨other, same⟩
  · exact .inl ⟨querying, collector⟩
  · exact .inr ⟨i, l'', other, same, querying, collector⟩

theorem le_inFlight_of_silent (silent : p.ends n x = false)
    (h : p'.inFlight n = true → p.inFlight n = true) :
    (p.ends n x).toNat + (p'.inFlight n).toNat ≤ (p.inFlight n).toNat := by
  rw [silent, Bool.toNat_false, Nat.zero_add]
  cases hafter : p'.inFlight n with
  | false => exact Nat.zero_le _
  | true => exact Nat.le_of_eq (congrArg Bool.toNat (h hafter).symm)

/-- A query is not in flight any more when it has ended. -/
theorem le_inFlight_of_ended (hended : p.inFlight n = true) (h : p'.inFlight n ≠ true) :
    (p.ends n x).toNat + (p'.inFlight n).toNat ≤ (p.inFlight n).toNat := by
  rw [hended, Bool.eq_false_iff.2 h]
  exact Bool.toNat_le _

/-- Unless a query for a collector begins, its query in flight is all that can end. -/
theorem Effect.inFlight (effect : p.Effect x p') (sound : p.Sound)
    (none_new : ∀ i, (i, n) ∉ p'.queries) :
    (p.ends n x).toNat + (p'.inFlight n).toNat ≤ (p.inFlight n).toNat := by
  cases effect with
  | rests _ silent rests =>
    refine le_inFlight_of_silent ?_ rests.inFlight
    rw [ends, silent]
    rfl
  | asks found _ _ collector_eq _ =>
    refine le_inFlight_of_silent rfl fun h => ?_
    rcases inFlight_of_modify found rfl h with ⟨-, own⟩ | ⟨i, l, -, before⟩
    · rw [← collector_eq, own] at none_new
      exact absurd (List.mem_append_right _ List.mem_cons_self) (none_new _)
    · exact inFlight_iff.2 ⟨i, l, before⟩
  | @answers id l l' answer found querying _ _ waits =>
    have idle : ¬ (l'.phase = .querying ∧ l'.collector = n) := by
      rintro ⟨querying', -⟩
      cases waits.symm.trans querying'
    by_cases own : l.collector = n
    · refine le_inFlight_of_ended (inFlight_iff.2 ⟨id, l, found, querying, own⟩) fun h => ?_
      -- no other loop has the same collector
      obtain ⟨i, l₀, other, found₀, -, own₀⟩ := (inFlight_of_modify found rfl h).resolve_left idle
      exact other (sound.eq_of_collector i id l₀ l found₀ found (own₀.trans own.symm))
    · refine le_inFlight_of_silent ?_ fun h => ?_
      · rw [ends, ended?_queryEnds found querying answer]
        exact decide_eq_false own
      · obtain ⟨i, l₀, -, before⟩ := (inFlight_of_modify found rfl h).resolve_left idle
        exact inFlight_iff.2 ⟨i, l₀, before⟩
  | removes rests => exact le_inFlight_of_silent rfl rests.inFlight
  | fails rests =>
    refine le_inFlight_of_silent rfl fun h => ?_
    rw [← p.inFlight_cleared]
    exact rests.inFlight h
  | installs rests₁ rests =>
    refine le_inFlight_of_silent rfl fun h => ?_
    rw [← p.inFlight_cleared]
    exact rests₁.inFlight (inFlight_put (rests.inFlight h))

/-- What a query brings goes to the collector that it was begun for. -/
theorem Effect.collectors (effect : p.Effect x p') {a : Collector}
    (found : p.collectors.get? n = some a) :
    (∀ answer, p.ended? x = some (n, answer) →
      p'.collectors.get? n = some (a.serve (.collect answer)).2) ∧
    ((∀ answer, p.ended? x ≠ some (n, answer)) → p'.collectors.get? n = some a) := by
  have hsilent : p.ended? x = none → p'.collectors.get? n = some a →
      (∀ answer, p.ended? x = some (n, answer) →
        p'.collectors.get? n = some (a.serve (.collect answer)).2) ∧
      ((∀ answer, p.ended? x ≠ some (n, answer)) → p'.collectors.get? n = some a) := by
    intro silent same
    refine ⟨fun answer ended => ?_, fun _ => same⟩
    cases silent.symm.trans ended
  cases effect with
  | rests _ silent rests => exact hsilent silent (by rw [rests.collectors_eq, found])
  | asks => exact hsilent rfl found
  | @answers id l l' answer foundLoop querying _ _ _ =>
    rw [ended?_queryEnds foundLoop querying answer]
    refine ⟨?_, fun other => ?_⟩
    · rintro answer' ended
      cases ended
      rw [Arena.get?_modify_self, found, Option.map_some]
    · have hne : l.collector ≠ n := fun own => other answer (by rw [own])
      rw [Arena.get?_modify_of_ne _ hne, found]
  | removes rests => exact hsilent rfl (by rw [rests.collectors_eq]; exact found)
  | fails rests => exact hsilent rfl (by rw [rests.collectors_eq, collectors_cleared, found])
  | installs rests₁ rests =>
    refine hsilent rfl ?_
    have hlt := Arena.lt_size_of_get? found
    rw [← p.collectors_cleared, ← rests₁.collectors_eq] at hlt found
    rw [rests.collectors_eq, put, Arena.get?_push_of_lt _ _ hlt, found]

/-! ## Between turns -/

/-- Before a turn no query has begun in it. -/
def atRest (p : Polling) : Polling := { p with queries := [] }

theorem sound_atRest_iff : p.atRest.Sound ↔ p.Sound :=
  ⟨fun h => ⟨h.1, h.2, h.3, h.4⟩, fun h => ⟨h.1, h.2, h.3, h.4⟩⟩

theorem gone_atRest_iff : p.atRest.Gone n ↔ p.Gone n :=
  ⟨fun h => ⟨h.1, h.2⟩, fun h => ⟨h.1, h.2⟩⟩

end Polling

namespace Controller

variable {c : Controller} {n : Nat}

/-! ## Turn after turn -/

/-- A turn at a moment, and the calls that are made in it. -/
def turn (c : Controller) (x : Moment × Turn) : Controller × List Call :=
  (c.perform x.1 fun c => ((), c.takes x.2)).2

def turns (c : Controller) : List (Moment × Turn) → Controller × List Call
  | [] => (c, [])
  | x :: xs => (((c.turn x).1.turns xs).1, (c.turn x).2 ++ ((c.turn x).1.turns xs).2)

/-- How many queries for a collector end in some turns. -/
def completions (n : Nat) (c : Controller) : List (Moment × Turn) → Nat
  | [] => 0
  | x :: xs => (c.polling.ends n x.2).toNat + completions n (c.turn x).1 xs

theorem effect_turn (c : Controller) (x : Moment × Turn) : ∃ p, c.polling.atRest.Effect x.2 p ∧
    (c.turn x).1.polling = p.atRest ∧ (c.turn x).2.filterMap Call.query? = p.queries :=
  ⟨_, polling_takes { c with now := x.1, outbox := [] } x.2, rfl, rfl⟩

theorem sound_new (instanceName : String) (workload : Workload) (scaler : ScalerConfig)
    (evaluation : EvaluationConfig) :
    (new instanceName workload scaler evaluation).polling.Sound := by
  refine ⟨nofun, nofun, nofun, nofun⟩

theorem sound_turn (h : c.polling.Sound) (x : Moment × Turn) : (c.turn x).1.polling.Sound := by
  obtain ⟨p, effect, hpolling, -⟩ := c.effect_turn x
  rw [hpolling, Polling.sound_atRest_iff]
  exact (Polling.sound_atRest_iff.2 h).effect effect

theorem sound_turns (h : c.polling.Sound) (xs : List (Moment × Turn)) :
    (c.turns xs).1.polling.Sound := by
  induction xs generalizing c with
  | nil => exact h
  | cons x xs ih => exact ih (sound_turn h x)

/-- In these turns no query for a collector begins, and one in flight is all that ends. -/
def LeavesAlone (c : Controller) (n : Nat) (xs : List (Moment × Turn)) : Prop :=
  (∀ loop timeout, .query loop n timeout ∉ (c.turns xs).2) ∧
    completions n c xs ≤ (c.polling.inFlight n).toNat

theorem mem_queries_iff {calls : List Call} {loop : Nat} :
    (loop, n) ∈ calls.filterMap Call.query? ↔ ∃ timeout, .query loop n timeout ∈ calls := by
  rw [List.mem_filterMap]
  constructor
  · rintro ⟨call, mem, hcall⟩
    cases call with
    | query _ _ timeout =>
      cases hcall
      exact ⟨timeout, mem⟩
    | _ => cases hcall
  · rintro ⟨timeout, mem⟩
    exact ⟨_, mem, rfl⟩

/-- One turn without a query for the collector, and more of them. -/
theorem LeavesAlone.cons {x : Moment × Turn} {xs : List (Moment × Turn)} {p : Polling}
    (h : c.polling.Sound) (effect : c.polling.atRest.Effect x.2 p)
    (hpolling : (c.turn x).1.polling = p.atRest)
    (hqueries : (c.turn x).2.filterMap Call.query? = p.queries)
    (none_new : ∀ loop, (loop, n) ∉ p.queries) (later : (c.turn x).1.LeavesAlone n xs) :
    c.LeavesAlone n (x :: xs) := by
  obtain ⟨hlater, hcount⟩ := later
  constructor
  · intro loop timeout mem
    rcases List.mem_append.1 mem with mem | mem
    · have mem := mem_queries_iff.2 ⟨timeout, mem⟩
      rw [hqueries] at mem
      exact none_new loop mem
    · exact hlater loop timeout mem
  · have hstep := effect.inFlight (Polling.sound_atRest_iff.2 h) none_new
    rw [hpolling] at hcount
    exact Nat.le_trans (Nat.add_le_add_left hcount _) hstep

theorem leavesAlone_of_gone (h : c.polling.Sound) (gone : c.polling.Gone n)
    (xs : List (Moment × Turn)) : c.LeavesAlone n xs := by
  induction xs generalizing c with
  | nil => exact ⟨fun _ _ => List.not_mem_nil, Nat.zero_le _⟩
  | cons x xs ih =>
    obtain ⟨p, effect, hpolling, hqueries⟩ := c.effect_turn x
    have hgone : c.polling.atRest.Gone n := Polling.gone_atRest_iff.2 gone
    refine .cons h effect hpolling hqueries (hgone.queries effect rfl) (ih (sound_turn h x) ?_)
    rw [hpolling, Polling.gone_atRest_iff]
    exact hgone.effect effect

theorem leavesAlone_of_replaces {x : Moment × Turn} {key : String} (h : c.polling.Sound)
    (replaces : x.2.replaces? = some key) (registered : c.store.collectors.find? key = some n)
    (xs : List (Moment × Turn)) : c.LeavesAlone n (x :: xs) := by
  obtain ⟨p, effect, hpolling, hqueries⟩ := c.effect_turn x
  have hrest : c.polling.atRest.Sound := Polling.sound_atRest_iff.2 h
  have idle : p.queries = [] := effect.queries_of_replaces replaces
  refine .cons h effect hpolling hqueries ?_ (leavesAlone_of_gone (sound_turn h x) ?_ xs)
  · rw [idle]
    exact fun _ => List.not_mem_nil
  · rw [hpolling, Polling.gone_atRest_iff]
    exact hrest.gone_of_replaces effect replaces registered

/-- A loop begins a query just when it is due, waits and has its own collector registered. -/
theorem exists_query_iff (c : Controller) (x : Moment × Turn) (loop n : Nat) :
    (∃ timeout, .query loop n timeout ∈ (c.turn x).2) ↔
      x.2 = .event (.collectionDue loop) ∧ ∃ l, c.collectionLoops.get? loop = some l ∧
        l.phase = .waiting ∧ l.collector = n ∧ c.store.isRegistered l.key n = true := by
  constructor
  · intro mem
    obtain ⟨p, effect, -, hqueries⟩ := c.effect_turn x
    rw [← mem_queries_iff, hqueries] at mem
    rcases effect.queries with idle | ⟨id, l, hx, found, waiting, registered, one_new⟩
    · rw [idle] at mem
      cases mem
    · rw [one_new] at mem
      cases List.mem_singleton.1 mem
      exact ⟨hx, l, found, waiting, rfl, beq_iff_eq.2 registered⟩
  · rintro ⟨hx, l, found, waiting, rfl, registered⟩
    refine ⟨l.queryTimeout, ?_⟩
    have hcalls : (c.turn x).2 = [.query loop l.collector l.queryTimeout] := by
      simp only [turn, perform, hx, takes, handle, atCollection, found, waiting, if_true,
        tickCollection, registered]
      rfl
    rw [hcalls]
    exact List.mem_cons_self

/-- Metrics may be installed, replaced and removed, loops told to stop and events of all kinds
happen, in any order. A loop begins a query just when it is due while its own collector is the
registered one, and of the loops with one key only one has that. From the turn on in which a
metric is removed or replaced no query for its collector begins, and one that was in flight is
all that ends. What a query brings goes to the collector that it was begun for. -/
theorem queries_registered_only (instanceName : String) (workload : Workload)
    (scaler : ScalerConfig) (evaluation : EvaluationConfig) (xs : List (Moment × Turn)) :
    let c := ((new instanceName workload scaler evaluation).turns xs).1
    (∀ x loop n, (∃ timeout, .query loop n timeout ∈ (c.turn x).2) ↔
      x.2 = .event (.collectionDue loop) ∧ ∃ l, c.collectionLoops.get? loop = some l ∧
        l.phase = .waiting ∧ l.collector = n ∧ c.store.isRegistered l.key n = true) ∧
      (∀ loop l, c.collectionLoops.get? loop = some l →
        (c.collectors.get? l.collector).map Collector.key = some l.key) ∧
      (∀ i j l l', c.collectionLoops.get? i = some l → c.collectionLoops.get? j = some l' →
        l.key = l'.key → c.store.isRegistered l.key l.collector = true →
          c.store.isRegistered l'.key l'.collector = true → i = j) ∧
      (∀ x key n, x.2.replaces? = some key → c.store.collectors.find? key = some n →
        ∀ ys, c.LeavesAlone n (x :: ys)) ∧
      ∀ x n a, c.collectors.get? n = some a →
        (∀ answer, c.polling.ended? x.2 = some (n, answer) →
          (c.turn x).1.collectors.get? n = some (a.serve (.collect answer)).2) ∧
        ((∀ answer, c.polling.ended? x.2 ≠ some (n, answer)) →
          (c.turn x).1.collectors.get? n = some a) := by
  intro c
  have sound : c.polling.Sound :=
    sound_turns (sound_new instanceName workload scaler evaluation) xs
  refine ⟨c.exists_query_iff, sound.loop_key, ?_, fun x key n => leavesAlone_of_replaces sound, ?_⟩
  · intro i j l l' hi hj same registered registered'
    rw [Store.isRegistered, beq_iff_eq] at registered registered'
    rw [same] at registered
    exact sound.eq_of_collector i j l l' hi hj
      (Option.some.inj (registered.symm.trans registered'))
  · intro x n a found
    obtain ⟨p, effect, hpolling, -⟩ := c.effect_turn x
    have hcollectors : (c.turn x).1.collectors = p.collectors :=
      congrArg Polling.collectors hpolling
    rw [hcollectors]
    exact effect.collectors found

/-- A metric is replaced while a query is in flight. What it brings goes to the old collector,
and the next query is begun for the new one. -/
example :
    let cpu : Metric := ⟨"cpu", "", "q", 1.0, 100, .none⟩
    let start := new "controller" ⟨"default", "web", "deployment"⟩ default .default
    let r := start.turns <| [.install cpu [] .default, .event (.collectionStarts 0),
      .event (.collectionDue 0), .install cpu [] .default, .event (.collectionStarts 1),
      .event (.queryEnds 0 (some (.ok [⟨0.5, 0⟩]))), .event (.collectionDue 0),
      .event (.collectionDue 1)].map fun x => (⟨0, 0⟩, x)
    r.2.filterMap Call.query? = [(0, 0), (1, 1)] ∧
      (r.1.buffer 0).size = 1 ∧ (r.1.buffer 1).size = 0 := by
  decide +kernel

end Controller

end PredictiveScaling
