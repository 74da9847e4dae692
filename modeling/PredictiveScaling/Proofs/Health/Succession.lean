import PredictiveScaling.Proofs.Health.Presence

/-!
# Successors

A metric that is replaced gets a new loop, and the old one is told. The entry belongs to the new
loop from its first turn on, if nothing is under way in an old one: a loop that only waits does not
write any more as long as a collector is registered. But a loop asks for its collector before it
queries and before it ends, not before it reports. So one that has yet to start, or whose query is
in flight, writes what it found over the report of its successor (`Controller.owns_install_iff`).
-/
namespace PredictiveScaling

namespace Rota

variable {p p' : Rota} {now : Int64} {x : Turn} {key : String} {n i j : Nat} {l l' : CollectionLoop}

/-- A loop has come with the registered collector, and under the key nothing is under way but in
this loop. -/
structure Succeeded (p : Rota) (key : String) (n j : Nat) : Prop where
  registered : p.registered.find? key = some n
  successor : ∃ l, p.loops.get? j = some l ∧ l.collector = n
  idle : ∀ i l, i ≠ j → p.loops.get? i = some l → l.key = key →
    l.phase = .waiting ∨ l.phase = .ended

theorem Succeeded.effect (sound : p.Sound) (h : p.Succeeded key n j) (effect : p.Effect now x p')
    (only : ∀ i l, p.loops.get? i = some l → l.collector = n → i = j)
    (keeps : x.replaces? ≠ some key) : p'.Succeeded key n j := by
  refine ⟨?_, ?_, ?_⟩
  · rcases effect.maps sound.names key with ⟨same, -⟩ | ⟨replaces, -⟩ | ⟨_, _, _, _, rfl, rfl, -⟩
    · exact same.trans h.registered
    · exact absurd replaces keeps
    · exact absurd rfl keeps
  · obtain ⟨l, found, hcollector⟩ := h.successor
    obtain ⟨l', found', becomes⟩ := effect.exists_becomes found
    exact ⟨l', found', becomes.job.1.trans hcollector⟩
  · intro i l' other found' hkey'
    rcases effect.exists_origin sound.names found' with
      ⟨l, found, becomes⟩ | ⟨_, _, _, _, rfl, -, rfl⟩
    · have hkey := becomes.job.2.1.symm.trans hkey'
      have idle := h.idle i l other found hkey
      cases becomes with
      | stays => exact idle
      | told _ => exact idle
      | moves moves _ =>
        cases moves with
        | starts starting => rcases idle with idle | idle <;> cases starting.symm.trans idle
        | asks _ registered =>
          -- the one registered collector has another loop
          rw [hkey, h.registered, Option.some.injEq] at registered
          exact absurd (only i l found registered.symm) other
        | answers querying => exact .inl rfl
        | gives_up _ _ => exact .inr rfl
        | obeys _ _ => exact .inr rfl
    · exact absurd (congrArg some hkey') keeps

/-- A loop that is no more than waiting does not write while a collector is registered. -/
theorem Succeeded.writer_eq (h : p.Succeeded key n j) {w : Writing}
    (written : p.written? now x = some w) (hkey : w.key = key) : w.loop = j := by
  by_contra other
  obtain ⟨l, found, hl, phases⟩ := exists_loop_of_written? written
  rcases phases with ⟨starting | querying, -⟩ | ⟨-, absent⟩
  · rcases h.idle w.loop l other found (hl.trans hkey) with idle | idle <;>
      cases starting.symm.trans idle
  · rcases h.idle w.loop l other found (hl.trans hkey) with idle | idle <;>
      cases querying.symm.trans idle
  · rw [hkey, KeyMap.contains_eq_of_find? h.registered] at absent
    cases absent

end Rota

namespace Controller

variable {c : Controller} {key : String} {n i j : Nat} {l : CollectionLoop}

/-- Once a loop has started, nobody else writes the entry of its metric, until the metric is
removed or replaced again. -/
def Owns (c : Controller) (key : String) (j : Nat) : Prop :=
  ∀ ys : List (Moment × Turn), (∀ y ∈ ys, y.2.replaces? ≠ some key) →
    (c.turns ys).1.rota.inPhase? j .starting = none →
      ∀ z w, (c.turns ys).1.writing? z = some w → w.key = key → w.loop = j

theorem succeeded_turns (polling : c.polling.Sound) (sound : c.rota.Sound)
    (h : c.rota.Succeeded key n j) {ys : List (Moment × Turn)}
    (keeps : ∀ y ∈ ys, y.2.replaces? ≠ some key) : (c.turns ys).1.rota.Succeeded key n j := by
  induction ys generalizing c with
  | nil => exact h
  | cons y ys ih =>
    rw [List.forall_mem_cons] at keeps
    obtain ⟨l, found, hcollector⟩ := h.successor
    refine ih (sound_turn polling y) (sound.effect (c.rota_turn y)) ?_ keeps.2
    refine h.effect sound (c.rota_turn y) (fun i l' found' same => ?_) keeps.1
    exact polling.eq_of_collector i j l' l found' found (same.trans hcollector.symm)

/-- A loop that is under way can still write after another one has started. -/
theorem not_owns_of_underWay (sound : c.rota.Sound) {l' : CollectionLoop}
    (successor : c.collectionLoops.get? j = some l') (found : c.collectionLoops.get? i = some l)
    (other : i ≠ j) (underWay : l.phase = .starting ∨ l.phase = .querying) :
    ¬ c.Owns l.key j := by
  intro owns
  have effect := c.rota_turn (⟨0, 0⟩, .event (.collectionStarts j))
  have started := effect.starts successor (sound.reports j l' successor)
  have owns := owns [(⟨0, 0⟩, .event (.collectionStarts j))]
    (List.forall_mem_singleton.2 nofun) started
  -- the other loop is where it was
  obtain ⟨l₁, found₁, becomes⟩ := effect.exists_becomes found
  have hphase : l₁.phase = l.phase := becomes.phase_eq fun phase moves => by
    cases moves
    exact other rfl
  rw [← hphase] at underWay
  obtain ⟨z, w, written, hloop, hkey, -⟩ := Rota.exists_written?_of_underWay
    ({ c with now := ⟨0, 0⟩ } : Controller).seconds found₁
    (becomes.job.2.2.1.trans (sound.reports i l found)) underWay
  exact other (hloop.symm.trans (owns (⟨0, 0⟩, .event z) w written (hkey.trans becomes.job.2.1)))

/-- From the moment that a metric is installed, perhaps in place of another one, its entry belongs
to its own loop if and only if all older loops under the key only wait or have ended. -/
theorem owns_install_iff (instanceName : String) (workload : Workload) (scaler : ScalerConfig)
    (evaluation : EvaluationConfig) (xs : List (Moment × Turn)) (now : Moment) (metric : Metric)
    {specs : List ModelSpec} (flawless : specs.findSome? ModelSpec.fault? = none)
    (config : CollectionConfig) :
    let c := ((new instanceName workload scaler evaluation).turns xs).1
    let c' := (c.turn (now, .install metric specs config)).1
    (c'.Owns metric.key c.collectionLoops.size ↔
      ∀ l ∈ c.collectionLoops.toList, l.key = metric.key →
        l.phase = .waiting ∨ l.phase = .ended) ∧
      ∀ ys z, let d := (c'.turns ys).1
        let name := collectorComponent metric.key
        (d.turn z).1.health.components.find? name =
          known name (d.health.components.find? name) (d.writing? z) := by
  intro c c'
  refine ⟨?_, fun ys z => find?_components_turn _ z
    (Workload.collectorComponent_notMem_ownComponents _ metric.key)⟩
  have polling : c.polling.Sound :=
    sound_turns (sound_new instanceName workload scaler evaluation) xs
  have sound : c.rota.Sound :=
    rota_sound_turns (rota_sound_new instanceName workload scaler evaluation) xs
  have effect := c.rota_turn (now, .install metric specs config)
  obtain ⟨n, registered, successor⟩ := effect.installed sound.names flawless
  constructor
  · intro owns l mem hkey
    obtain ⟨i, found⟩ := List.mem_iff_getElem?.1 mem
    have found : c.rota.loops.get? i = some l := found
    obtain ⟨l', found', becomes⟩ := effect.exists_becomes found
    have hphase : l'.phase = l.phase := becomes.phase_eq nofun
    by_contra idle
    refine not_owns_of_underWay (sound.effect effect) successor found'
      (Nat.ne_of_lt (Arena.lt_size_of_get? found)) ?_ ?_
    · rw [hphase]
      cases hl : l.phase with
      | starting => exact .inl rfl
      | querying => exact .inr rfl
      | waiting => exact absurd (.inl hl) idle
      | ended => exact absurd (.inr hl) idle
    · rw [becomes.job.2.1.trans hkey]
      exact owns
  · intro idle ys keeps _ z w written hkey
    have h : c'.rota.Succeeded metric.key n c.collectionLoops.size := by
      refine ⟨registered, ⟨_, successor, rfl⟩, fun i l' other found' hkey' => ?_⟩
      rcases effect.exists_origin sound.names found' with
        ⟨l, found, becomes⟩ | ⟨_, _, _, _, -, rfl, -⟩
      · rw [becomes.phase_eq nofun]
        exact idle l (List.mem_of_getElem? found) (becomes.job.2.1.symm.trans hkey')
      · exact absurd rfl other
    exact (succeeded_turns (sound_turn polling _) (sound.effect effect) h keeps).writer_eq
      written hkey

/-- A metric is installed and its loop has been some way. -/
def onWay (events : List Event) : List (Moment × Turn) :=
  (.install (metricNamed "cpu") [] .default :: events.map .event).map fun x => (⟨0, 0⟩, x)

/-- Replacing a metric whose loop waits leaves the entry to the new loop. When a query was in
flight, its failure is written over the report of the new loop. -/
theorem owns_install_iff_in_flight :
    let start := new "controller" ⟨"default", "web", "deployment"⟩ default .default
    let waiting := (start.turns (onWay [.collectionStarts 0])).1
    let querying := (start.turns (onWay [.collectionStarts 0, .collectionDue 0])).1
    let again : Moment × Turn := (⟨1000, 0⟩, .install (metricNamed "cpu") [] .default)
    (waiting.turn again).1.Owns "cpu$$q" 1 ∧
      ¬ (querying.turn again).1.Owns "cpu$$q" 1 ∧
      ((querying.turn again).1.turns [(⟨1000, 0⟩, .event (.collectionStarts 1)),
        (⟨5000, 0⟩, .event (.queryEnds 0 none))]).1.health.components.find? "collector:cpu$$q" =
          some ⟨.degraded, some "metric query timed out", 5⟩ := by
  intro start waiting querying again
  have flawless : ([] : List ModelSpec).findSome? ModelSpec.fault? = none := rfl
  have hwaiting := (owns_install_iff "controller" ⟨"default", "web", "deployment"⟩ default .default
    (onWay [.collectionStarts 0]) ⟨1000, 0⟩ (metricNamed "cpu") flawless .default).1
  have hquerying := (owns_install_iff "controller" ⟨"default", "web", "deployment"⟩ default
    .default (onWay [.collectionStarts 0, .collectionDue 0]) ⟨1000, 0⟩ (metricNamed "cpu")
    flawless .default).1
  refine ⟨hwaiting.2 (by decide +kernel), fun owns => ?_, by decide +kernel⟩
  exact absurd (hquerying.1 owns) (by decide +kernel)

end Controller

end PredictiveScaling
