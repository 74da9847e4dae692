import PredictiveScaling.Proofs.Health.Watch

/-!
# Which entries there are

The loop that a registered collector came with has not been told and does not end, and from its
start on there is an entry for it. An entry that is left when its collector goes belongs to some
loop that has yet to end, and that loop takes it away. So once all loops without a collector of
their own have ended, there is an entry just for what is registered
(`Controller.contains_components_iff`). This fails for a loop that cannot run: one without a period
registers its entry and breaks, and nobody takes the entry away.
-/
namespace PredictiveScaling

/-- Whether a turn puts in a loop that cannot run, under a key. -/
def Turn.breaks (key : String) : Turn → Prop
  | .install metric _ config => metric.key = key ∧ config.interval.millis = 0
  | _ => False

instance (key : String) (x : Turn) : Decidable (x.breaks key) :=
  match x with
  | .install metric _ config =>
    inferInstanceAs (Decidable (metric.key = key ∧ config.interval.millis = 0))
  | .remove _ | .stop _ | .shutDown | .evaluate | .event _ => inferInstanceAs (Decidable False)

namespace Rota

variable {p p' : Rota} {now : Int64} {x : Turn} {key : String} {i : Nat} {l l' : CollectionLoop}

/-! ## What holds of every loop -/

/-- Stops name loops of their keys, and every loop reports. -/
structure Sound (p : Rota) : Prop where
  names : p.Names
  reports : ∀ i l, p.loops.get? i = some l → l.reports = true

theorem Sound.effect (h : p.Sound) (effect : p.Effect now x p') : p'.Sound := by
  refine ⟨?_, ?_⟩
  · intro key i named
    rcases effect.maps h.names key with ⟨-, same⟩ | ⟨-, -, gone⟩ | ⟨_, _, _, _, -, -, -, last, new⟩
    · obtain ⟨l, found, hkey⟩ := h.names key i (same.symm.trans named)
      obtain ⟨l', found', becomes⟩ := effect.exists_becomes found
      exact ⟨l', found', becomes.job.2.1.trans hkey⟩
    · cases gone.symm.trans named
    · cases last.symm.trans named
      exact ⟨_, new, rfl⟩
  · intro i l' found'
    rcases effect.exists_origin h.names found' with ⟨l, found, becomes⟩ | ⟨_, _, _, _, -, -, rfl⟩
    · exact becomes.job.2.2.1.trans (h.reports i l found)
    · rfl

/-! ## What is known of a metric -/

/-- The entry under a key is looked after. -/
structure Attended (p : Rota) (key : String) : Prop where
  lasting : ∀ i l, p.loops.get? i = some l → l.key = key → l.ticker.period.millis ≠ 0
  /-- A registered collector has a loop that goes on. -/
  manned : ∀ n, p.registered.find? key = some n → ∃ i l, p.stops.find? key = some i ∧
    p.loops.get? i = some l ∧ l.key = key ∧ l.collector = n ∧ l.signalled = false ∧
    l.phase ≠ .ended ∧ (l.phase ≠ .starting → (p.shown? (collectorComponent key)).isSome = true)
  /-- What is left behind belongs to a loop that has not ended. -/
  left : p.registered.find? key = none → (p.shown? (collectorComponent key)).isSome = true →
    ∃ i l, p.loops.get? i = some l ∧ l.key = key ∧ l.phase ≠ .ended

/-- Where there is an entry, or will be, some loop has not ended. -/
theorem Attended.exists_running (h : p.Attended key)
    (known : ((p.write (p.written? now x)).shown? (collectorComponent key)).isSome = true) :
    ∃ i l, p.loops.get? i = some l ∧ l.key = key ∧ l.phase ≠ .ended := by
  by_cases own : ∃ w, p.written? now x = some w ∧ w.key = key
  · obtain ⟨w, written, rfl⟩ := own
    obtain ⟨l, found, hkey, phases⟩ := exists_loop_of_written? written
    refine ⟨w.loop, l, found, hkey, fun ended => ?_⟩
    rcases phases with ⟨starting | querying, -⟩ | ⟨waiting, -⟩
    · cases ended.symm.trans starting
    · cases ended.symm.trans querying
    · cases ended.symm.trans waiting
  · rw [shown?_write_of_ne fun w written same =>
      own ⟨w, written, collectorComponent_inj.1 same⟩] at known
    cases registered : p.registered.find? key with
    | none => exact h.left registered known
    | some n =>
      obtain ⟨i, l, -, found, hkey, -, -, running, -⟩ := h.manned n registered
      exact ⟨i, l, found, hkey, running⟩

/-- The loop of a registered collector goes on, unless it is not named any more. -/
theorem Attended.manned_of_becomes (sound : p.Sound) (h : p.Attended key)
    (effect : p.Effect now x p') (goesOn : x.halts = false) {n : Nat}
    (registered : p.registered.find? key = some n)
    (stop_eq : p'.stops.find? key = p.stops.find? key) :
    ∃ i l, p'.stops.find? key = some i ∧ p'.loops.get? i = some l ∧ l.key = key ∧
      l.collector = n ∧ l.signalled = false ∧ l.phase ≠ .ended ∧
      (l.phase ≠ .starting → (p'.shown? (collectorComponent key)).isSome = true) := by
  obtain ⟨i, l, named, found, hkey, hcollector, untold, running, known⟩ := h.manned n registered
  obtain ⟨l', found', becomes⟩ := effect.exists_becomes found
  obtain ⟨hcollector', hkey', -, -⟩ := becomes.job
  refine ⟨i, l', stop_eq.trans named, found', hkey'.trans hkey, hcollector'.trans hcollector,
    ?_, fun ended => ?_, fun goes => ?_⟩
  · refine Bool.eq_false_iff.2 fun told => ?_
    rcases becomes.signalled untold told with halts | ⟨key', named', unnamed⟩
    · cases goesOn.symm.trans halts
    · -- a stop names a loop of its own key
      obtain ⟨l₀, found₀, hkey₀⟩ := sound.names key' i named'
      cases found₀.symm.trans found
      obtain rfl := hkey₀.symm.trans hkey
      exact unnamed (stop_eq.trans named)
  · obtain ⟨-, -, unregistered | told⟩ := becomes.ended now found
      (h.lasting i l found hkey) running ended
    · exact unregistered (by rw [hkey, hcollector, registered])
    · cases untold.symm.trans told
  · rw [effect.shown?_eq]
    by_cases starting : l.phase = .starting
    · have written := becomes.started now found starting goes
      rw [notes?, if_pos (sound.reports i l found)] at written
      rw [← hkey, shown?_write_self written]
      rfl
    · exact isSome_shown?_write (KeyMap.contains_eq_of_find? registered) (known starting)

theorem Attended.effect (sound : p.Sound) (h : p.Attended key) (effect : p.Effect now x p')
    (goesOn : x.halts = false) (whole : ¬ x.breaks key) : p'.Attended key := by
  refine ⟨?_, ?_, ?_⟩
  · intro i l' found' hkey'
    rcases effect.exists_origin sound.names found' with
      ⟨l, found, becomes⟩ | ⟨metric, specs, config, n, rfl, -, rfl⟩
    · obtain ⟨-, hkey, -, hperiod⟩ := becomes.job
      rw [hperiod]
      exact h.lasting i l found (hkey.symm.trans hkey')
    · exact fun broken => whole ⟨hkey', broken⟩
  · intro n registered
    rcases effect.maps sound.names key with
      ⟨same, stop_eq⟩ | ⟨-, gone, -⟩ | ⟨_, _, _, m, -, -, new, named, found⟩
    · exact h.manned_of_becomes sound effect goesOn (same.symm.trans registered) stop_eq
    · cases gone.symm.trans registered
    · cases new.symm.trans registered
      exact ⟨_, _, named, found, rfl, rfl, rfl, nofun, fun starts => absurd rfl starts⟩
  · intro unregistered known
    rw [effect.shown?_eq] at known
    obtain ⟨i, l, found, hkey, running⟩ := h.exists_running known
    obtain ⟨l', found', becomes⟩ := effect.exists_becomes found
    refine ⟨i, l', found', becomes.job.2.1.trans hkey, fun ended => ?_⟩
    obtain ⟨keeps, written, -⟩ := becomes.ended now found (h.lasting i l found hkey)
      running ended
    -- the loop has taken the entry away
    have absent : ¬ p.registered.contains l.key = true := by
      rcases effect.maps sound.names key with ⟨same, -⟩ | ⟨replaces, -⟩ | ⟨_, _, _, _, rfl, -⟩
      · rw [hkey, KeyMap.contains, ← same, unregistered]
        exact Bool.false_ne_true
      · cases keeps.symm.trans replaces
      · cases keeps
    rw [leaves?, if_neg absent, notes?, if_pos (sound.reports i l found)] at written
    rw [← hkey, shown?_write_self written] at known
    cases known

end Rota

namespace Controller

variable {c : Controller} {key : String}

theorem rota_sound_turns (h : c.rota.Sound) (xs : List (Moment × Turn)) :
    (c.turns xs).1.rota.Sound := by
  induction xs generalizing c with
  | nil => exact h
  | cons x xs ih => exact ih (h.effect (c.rota_turn x))

theorem attended_turns (sound : c.rota.Sound) (h : c.rota.Attended key)
    {xs : List (Moment × Turn)} (goesOn : ∀ x ∈ xs, x.2.halts = false)
    (whole : ∀ x ∈ xs, ¬ x.2.breaks key) : (c.turns xs).1.rota.Attended key := by
  induction xs generalizing c with
  | nil => exact h
  | cons x xs ih =>
    rw [List.forall_mem_cons] at goesOn whole
    exact ih (sound.effect (c.rota_turn x)) (h.effect sound (c.rota_turn x) goesOn.1 whole.1)
      goesOn.2 whole.2

theorem rota_sound_new (instanceName : String) (workload : Workload) (scaler : ScalerConfig)
    (evaluation : EvaluationConfig) :
    (new instanceName workload scaler evaluation).rota.Sound :=
  ⟨nofun, nofun⟩

theorem attended_new (instanceName : String) (workload : Workload) (scaler : ScalerConfig)
    (evaluation : EvaluationConfig) (key : String) :
    (new instanceName workload scaler evaluation).rota.Attended key :=
  ⟨nofun, nofun, nofun⟩

/-- Every loop under a key has started if its collector is registered, and else it has ended. -/
def Settled (c : Controller) (key : String) : Prop :=
  ∀ l ∈ c.collectionLoops.toList, l.key = key →
    if c.store.isRegistered key l.collector then l.phase ≠ .starting else l.phase = .ended

instance (c : Controller) (key : String) : Decidable (c.Settled key) :=
  inferInstanceAs (Decidable (∀ l ∈ c.collectionLoops.toList, l.key = key →
    if c.store.isRegistered key l.collector then l.phase ≠ .starting else l.phase = .ended))

/-- Metrics are installed, replaced and removed and everything else happens, in any order, but no
loop is told to stop otherwise. Once all is settled under a key with loops that can run, there is
an entry if and only if there is a collector. -/
theorem contains_components_iff (instanceName : String) (workload : Workload)
    (scaler : ScalerConfig) (evaluation : EvaluationConfig) {xs : List (Moment × Turn)}
    (goesOn : ∀ x ∈ xs, x.2.halts = false) (whole : ∀ x ∈ xs, ¬ x.2.breaks key) :
    let c := ((new instanceName workload scaler evaluation).turns xs).1
    c.Settled key → (c.health.components.contains (collectorComponent key) = true ↔
      c.store.collectors.contains key = true) := by
  intro c settled
  have h : c.rota.Attended key := attended_turns
    (rota_sound_new instanceName workload scaler evaluation)
    (attended_new instanceName workload scaler evaluation key) goesOn whole
  rw [KeyMap.contains, ← c.shown?_rota_collector key]
  have settled : ∀ i l, c.rota.loops.get? i = some l → l.key = key →
      if c.store.isRegistered key l.collector then l.phase ≠ .starting else l.phase = .ended :=
    fun i l found => settled l (List.mem_of_getElem? found)
  constructor
  · intro known
    by_contra absent
    have unregistered : c.rota.registered.find? key = none :=
      Option.not_isSome_iff_eq_none.1 absent
    obtain ⟨i, l, found, hkey, running⟩ := h.left unregistered known
    have other : ¬ c.store.isRegistered key l.collector = true := by
      rw [Store.isRegistered, beq_iff_eq]
      intro registered
      cases registered.symm.trans unregistered
    have ended := settled i l found hkey
    rw [if_neg other] at ended
    exact running ended
  · intro registered
    obtain ⟨n, registered⟩ := KeyMap.find?_of_contains registered
    obtain ⟨i, l, -, found, hkey, hcollector, -, -, known⟩ := h.manned n registered
    have started := settled i l found hkey
    rw [if_pos (by rw [hcollector, Store.isRegistered, registered, beq_self_eq_true])] at started
    exact known started

/-- A metric with some name. -/
def metricNamed (name : String) : Metric := ⟨name, "", "q", 1.0, 100, .none⟩

/-- One metric is replaced while a query is in flight, another one is removed before its loop has
started. -/
def handover : List (Moment × Turn) :=
  [.install (metricNamed "cpu") [] .default, .event (.collectionStarts 0),
    .event (.collectionDue 0), .install (metricNamed "cpu") [] .default,
    .event (.collectionStarts 1), .install (metricNamed "memory") [] .default,
    .remove "memory$$q", .event (.queryEnds 0 none), .event (.collectionSignalled 0),
    .event (.collectionStarts 2), .event (.collectionSignalled 2)].map fun x => (⟨0, 0⟩, x)

/-- The first metric has an entry, which the old loop has not taken away, and the second one has
none left, although its loop has registered it after the removal. -/
theorem contains_components_iff_handover :
    let c := ((new "controller" ⟨"default", "web", "deployment"⟩ default .default).turns
      handover).1
    (∀ x ∈ handover, x.2.halts = false) ∧
      (∀ key ∈ ["cpu$$q", "memory$$q"], (∀ x ∈ handover, ¬ x.2.breaks key) ∧ c.Settled key) ∧
      c.health.components.contains "collector:cpu$$q" = true ∧
      c.health.components.contains "collector:memory$$q" = false := by
  intro c
  have goesOn : ∀ x ∈ handover, x.2.halts = false := by decide +kernel
  have whole : ∀ key ∈ ["cpu$$q", "memory$$q"], (∀ x ∈ handover, ¬ x.2.breaks key) ∧
      c.Settled key := by decide +kernel
  rw [List.forall_mem_cons, List.forall_mem_singleton] at whole
  obtain ⟨⟨wholeCpu, settledCpu⟩, wholeMemory, settledMemory⟩ := whole
  have hcpu := contains_components_iff "controller" ⟨"default", "web", "deployment"⟩ default
    .default goesOn wholeCpu settledCpu
  have hmemory := contains_components_iff "controller" ⟨"default", "web", "deployment"⟩ default
    .default goesOn wholeMemory settledMemory
  refine ⟨goesOn, ?_, hcpu.2 (by decide +kernel), Bool.eq_false_iff.2 fun known => ?_⟩
  · rw [List.forall_mem_cons, List.forall_mem_singleton]
    exact ⟨⟨wholeCpu, settledCpu⟩, wholeMemory, settledMemory⟩
  · exact absurd (hmemory.1 known) (by decide +kernel)

/-- A loop without a period has registered its entry and is broken, so the entry is left when the
metric is removed. -/
theorem not_contains_components_iff_broken :
    ¬ ∀ (xs : List (Moment × Turn)) (key : String), (∀ x ∈ xs, x.2.halts = false) →
      let c := ((new "controller" ⟨"default", "web", "deployment"⟩ default .default).turns xs).1
      c.Settled key → (c.health.components.contains (collectorComponent key) = true ↔
        c.store.collectors.contains key = true) := by
  intro h
  have broken := h ([.install (metricNamed "cpu") [] { CollectionConfig.default with
      interval := .zero }, .event (.collectionStarts 0), .remove "cpu$$q"].map
    fun x => (⟨0, 0⟩, x)) "cpu$$q" (by decide +kernel) (by decide +kernel)
  exact absurd (broken.1 (by decide +kernel)) (by decide +kernel)

end Controller

end PredictiveScaling
