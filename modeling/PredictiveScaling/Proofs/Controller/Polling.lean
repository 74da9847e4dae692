import PredictiveScaling.Proofs.Collector.Ledger
import PredictiveScaling.Proofs.Controller.Install
import PredictiveScaling.Proofs.Controller.View

/-!
# Polling

For the queries of its loops it matters which metrics and collectors a controller has
registered, and how far its collection loops have come. Whatever happens does one of a few
things to these: a loop begins a query, or ends one, a metric goes, or comes with a collector
and a loop of its own, or else no more happens than that loops are told something or wait or
end (`Polling.Effect`).
-/
namespace PredictiveScaling

/-! ## Turns -/

/-- What happens to a controller whose metrics come and go as a whole. -/
inductive Turn where
  | install (metric : Metric) (specs : List ModelSpec) (config : CollectionConfig)
  | remove (metricKey : String)
  /-- The loop under a key is told to stop. -/
  | stop (metricKey : String)
  /-- All loops are told that the process shuts down. -/
  | shutDown
  /-- A round is begun from outside. -/
  | evaluate
  | event (x : Event)

/-- The key under which nothing stays as it was. -/
def Turn.replaces? : Turn → Option String
  | .install metric _ _ => some metric.key
  | .remove metricKey => some metricKey
  | _ => none

def Controller.takes (c : Controller) : Turn → Controller
  | .install metric specs config => (c.install metric specs config).2
  | .remove metricKey => c.remove metricKey
  | .stop metricKey => (c.stop metricKey).2
  | .shutDown => c.shutDown.2
  | .evaluate => c.beginEvaluation none
  | .event x => c.handle x

/-! ## What matters to queries -/

structure Polling where
  metrics : KeyMap String Metric
  /-- The numbers of the collectors under the keys of their metrics. -/
  registered : KeyMap String Nat
  collectors : Arena Collector
  loops : Arena CollectionLoop
  /-- The loops that have begun a query, with the collectors that they work for. -/
  queries : List (Nat × Nat)

namespace Polling

/-- The collector whose query a turn ends, and the answer. -/
def ended? (p : Polling) : Turn → Option (Nat × Option (Except SourceError (List Sample)))
  | .event (.queryEnds id answer) =>
    match p.loops.get? id with
    | some l => if l.phase = .querying then some (l.collector, answer) else none
    | none => none
  | _ => none

theorem ended?_queryEnds {p : Polling} {id : Nat} {l : CollectionLoop}
    (found : p.loops.get? id = some l) (querying : l.phase = .querying)
    (answer : Option (Except SourceError (List Sample))) :
    p.ended? (.event (.queryEnds id answer)) = some (l.collector, answer) := by
  simp only [ended?, found, querying, if_true]

/-- No metric comes or goes, no query begins or ends: loops go on for their collectors. -/
structure Rests (p p' : Polling) : Prop where
  metrics_eq : p'.metrics = p.metrics
  registered_eq : p'.registered = p.registered
  collectors_eq : p'.collectors = p.collectors
  queries_eq : p'.queries = p.queries
  exists_loop : ∀ i l', p'.loops.get? i = some l' → ∃ l, p.loops.get? i = some l ∧
    l'.collector = l.collector ∧ l'.key = l.key ∧ (l'.phase = .querying → l.phase = .querying)

variable {p p' p'' : Polling}

theorem Rests.of_eq (h : p' = p) : p.Rests p' := by
  subst h
  exact ⟨rfl, rfl, rfl, rfl, fun _ l found => ⟨l, found, rfl, rfl, id⟩⟩

theorem Rests.trans (h : p.Rests p') (h' : p'.Rests p'') : p.Rests p'' := by
  refine ⟨h'.metrics_eq.trans h.metrics_eq, h'.registered_eq.trans h.registered_eq,
    h'.collectors_eq.trans h.collectors_eq, h'.queries_eq.trans h.queries_eq, ?_⟩
  intro i l'' found''
  obtain ⟨l', found', hcollector', hkey', hphase'⟩ := h'.exists_loop i l'' found''
  obtain ⟨l, found, hcollector, hkey, hphase⟩ := h.exists_loop i l' found'
  exact ⟨l, found, hcollector'.trans hcollector, hkey'.trans hkey, fun hq => hphase (hphase' hq)⟩

/-- Of a loop that has changed and all others, each was there before. -/
theorem exists_loop_of_modify {id i : Nat} {l l' l'' : CollectionLoop}
    (found : p.loops.get? id = some l)
    (changed : (p.loops.modify id fun _ => l').get? i = some l'') :
    i = id ∧ l'' = l' ∨ i ≠ id ∧ p.loops.get? i = some l'' := by
  by_cases hid : id = i
  · subst hid
    rw [Arena.get?_modify_self, found, Option.map_some, Option.some.injEq] at changed
    exact .inl ⟨rfl, changed.symm⟩
  · rw [Arena.get?_modify_of_ne _ hid] at changed
    exact .inr ⟨Ne.symm hid, changed⟩

theorem Rests.modify {id : Nat} {l l' : CollectionLoop} (found : p.loops.get? id = some l)
    (hcollector : l'.collector = l.collector) (hkey : l'.key = l.key)
    (hphase : l'.phase = .querying → l.phase = .querying) :
    p.Rests { p with loops := p.loops.modify id fun _ => l' } := by
  refine ⟨rfl, rfl, rfl, rfl, fun i l'' changed => ?_⟩
  rcases exists_loop_of_modify found changed with ⟨rfl, rfl⟩ | ⟨-, same⟩
  · exact ⟨l, found, hcollector, hkey, hphase⟩
  · exact ⟨l'', same, rfl, rfl, fun hq => hq⟩

/-- A metric goes, and its collector is not registered any more. -/
def without (p : Polling) (metricKey : String) : Polling :=
  { p with metrics := p.metrics.erase metricKey, registered := p.registered.erase metricKey }

/-- What is there before a new metric is put in. -/
def cleared (p : Polling) (metricKey : String) : Polling :=
  if p.metrics.contains metricKey then p.without metricKey else p

theorem collectors_cleared (p : Polling) (metricKey : String) :
    (p.cleared metricKey).collectors = p.collectors := by
  rw [cleared]
  split <;> rfl

theorem loops_cleared (p : Polling) (metricKey : String) :
    (p.cleared metricKey).loops = p.loops := by
  rw [cleared]
  split <;> rfl

theorem queries_cleared (p : Polling) (metricKey : String) :
    (p.cleared metricKey).queries = p.queries := by
  rw [cleared]
  split <;> rfl

/-- A metric comes with a collector and a loop of its own. -/
def put (p : Polling) (metric : Metric) (config : CollectionConfig) : Polling :=
  { p with
    metrics := p.metrics.insert metric.key metric
    registered := p.registered.insert metric.key p.collectors.size
    collectors := p.collectors.push (.new metric config.maxSamples)
    loops := p.loops.push (.new p.collectors.size metric.key config true) }

/-- What a turn does to what matters to queries. -/
inductive Effect (p : Polling) : Turn → Polling → Prop where
  | rests {x : Turn} {p' : Polling} (keeps : x.replaces? = none)
      (silent : p.ended? x = none) (h : p.Rests p') : Effect p x p'
  | asks {id : Nat} {l l' : CollectionLoop} (found : p.loops.get? id = some l)
      (waiting : l.phase = .waiting) (registered : p.registered.find? l.key = some l.collector)
      (collector_eq : l'.collector = l.collector) (key_eq : l'.key = l.key) :
      Effect p (.event (.collectionDue id)) { p with
        loops := p.loops.modify id fun _ => l'
        queries := p.queries ++ [(id, l.collector)] }
  | answers {id : Nat} {l l' : CollectionLoop}
      {answer : Option (Except SourceError (List Sample))} (found : p.loops.get? id = some l)
      (querying : l.phase = .querying) (collector_eq : l'.collector = l.collector)
      (key_eq : l'.key = l.key) (waits : l'.phase = .waiting) :
      Effect p (.event (.queryEnds id answer)) { p with
        collectors := p.collectors.modify l.collector fun x => (x.serve (.collect answer)).2
        loops := p.loops.modify id fun _ => l' }
  | removes {metricKey : String} {p' : Polling} (h : (p.without metricKey).Rests p') :
      Effect p (.remove metricKey) p'
  | fails {metric : Metric} {specs : List ModelSpec} {config : CollectionConfig} {p' : Polling}
      (h : (p.cleared metric.key).Rests p') : Effect p (.install metric specs config) p'
  | installs {metric : Metric} {specs : List ModelSpec} {config : CollectionConfig}
      {p₁ p' : Polling} (h₁ : (p.cleared metric.key).Rests p₁)
      (h : (p₁.put metric config).Rests p') : Effect p (.install metric specs config) p'

end Polling

namespace Controller

variable {c : Controller}

def polling (c : Controller) : Polling :=
  ⟨c.store.metrics, c.store.collectors, c.collectors, c.collectionLoops,
    c.outbox.filterMap Call.query?⟩

/-- Training and evaluating do not matter to queries. -/
theorem overlooks_polling : Overlooks polling where
  call c x hx := by
    simp only [polling, call, List.filterMap_append, List.filterMap_cons, hx, List.filterMap_nil,
      List.append_nil]
  evaluations _ _ := rfl
  evaluationLoops _ _ := rfl
  awaited _ _ := rfl
  scaler _ _ := rfl
  reports _ _ _ _ := rfl
  telemetry _ _ := rfl
  putRemote _ _ _ _ := rfl

/-! ## Loops -/

theorem polling_reportHealthy (c : Controller) (component : String) :
    (c.reportHealthy component).polling = c.polling :=
  rfl

theorem polling_reportDegraded (c : Controller) (component message : String) :
    (c.reportDegraded component message).polling = c.polling :=
  rfl

theorem polling_forgetHealth (c : Controller) (component : String) :
    (c.forgetHealth component).polling = c.polling :=
  rfl

theorem polling_setCollectionLoop (c : Controller) (id : Nat) (l : CollectionLoop) :
    (c.setCollectionLoop id l).polling =
      { c.polling with loops := c.collectionLoops.modify id fun _ => l } :=
  rfl

theorem polling_awaitCollectionTick (c : Controller) (id : Nat) (l : CollectionLoop) :
    (c.awaitCollectionTick id l).polling = { c.polling with
      loops := c.collectionLoops.modify id fun _ => { l with phase := .waiting } } := by
  simp only [awaitCollectionTick]
  rw [overlooks_polling.call _ _ rfl]
  split
  · rw [overlooks_polling.soon, polling_setCollectionLoop]
  · rw [polling_setCollectionLoop]

theorem polling_endCollection (c : Controller) (id : Nat) (l : CollectionLoop) :
    (c.endCollection id l).polling = { c.polling with
      loops := c.collectionLoops.modify id fun _ => { l with phase := .ended } } := by
  simp only [endCollection]
  split
  · rw [polling_forgetHealth, polling_setCollectionLoop]
  · rw [polling_setCollectionLoop]

theorem rests_startCollection {id : Nat} {l : CollectionLoop}
    (found : c.collectionLoops.get? id = some l) :
    c.polling.Rests (c.startCollection id l).polling := by
  have hreport : ∀ c' : Controller, c'.polling = c.polling →
      c.polling.Rests (if l.ticker.period.millis = 0 then
          c'.setCollectionLoop id { l with phase := .ended }
        else c'.awaitCollectionTick id
          { l with ticker := .start l.ticker.period c'.now.timer }).polling := by
    intro c' same
    have hloops : c'.collectionLoops = c.collectionLoops := congrArg Polling.loops same
    split
    · rw [polling_setCollectionLoop, same, hloops]
      exact .modify found rfl rfl fun hq => by cases hq
    · rw [polling_awaitCollectionTick, same, hloops]
      exact .modify found rfl rfl fun hq => by cases hq
  rw [startCollection]
  by_cases reports : l.reports = true
  · rw [if_pos reports]
    exact hreport _ (c.polling_reportHealthy _)
  · rw [if_neg reports]
    exact hreport c rfl

theorem polling_tickCollection {id : Nat} {l : CollectionLoop}
    (found : c.collectionLoops.get? id = some l) (waiting : l.phase = .waiting) :
    c.polling.Effect (.event (.collectionDue id)) (c.tickCollection id l).polling := by
  simp only [tickCollection]
  split
  · next registered =>
    have hquery : ∀ l' : CollectionLoop,
        ((c.setCollectionLoop id l').call (.query id l.collector l.queryTimeout)).polling =
          { c.polling with
            loops := c.collectionLoops.modify id fun _ => l'
            queries := c.polling.queries ++ [(id, l.collector)] } := by
      intro l'
      simp only [polling, call, setCollectionLoop, List.filterMap_append]
      rfl
    rw [hquery]
    rw [Store.isRegistered, beq_iff_eq] at registered
    exact .asks found waiting registered rfl rfl
  · rw [polling_endCollection]
    exact .rests rfl rfl (.modify found rfl rfl fun hq => by cases hq)

theorem polling_endQuery {id : Nat} {l : CollectionLoop}
    {answer : Option (Except SourceError (List Sample))}
    (found : c.collectionLoops.get? id = some l) (querying : l.phase = .querying) :
    c.polling.Effect (.event (.queryEnds id answer)) (c.endQuery id l answer).polling := by
  have htake : (c.takeAnswer l.collector answer).polling = { c.polling with
      collectors := c.collectors.modify l.collector fun x => (x.serve (.collect answer)).2 } := by
    have hcollectors := Collector.collectors_takeAnswer c l.collector answer
    cases answer with
    | none =>
      rw [← hcollectors]
      rfl
    | some result => rfl
  -- what is reported in between does not matter
  have hreport : ∀ c' : Controller, c'.polling = (c.takeAnswer l.collector answer).polling →
      c.polling.Effect (.event (.queryEnds id answer)) (c'.awaitCollectionTick id l).polling := by
    intro c' same
    have hloops : c'.collectionLoops = c.collectionLoops :=
      congrArg Polling.loops (same.trans htake)
    rw [polling_awaitCollectionTick, same, htake, hloops]
    exact .answers found querying rfl rfl rfl
  simp only [endQuery]
  refine hreport _ ?_
  split
  · split
    · rw [polling_reportHealthy, overlooks_polling.count]
    · rw [polling_reportDegraded, overlooks_polling.count]
  · rw [overlooks_polling.count]

/-! ## Signals -/

theorem rests_signalCollection (c : Controller) (id : Nat) :
    c.polling.Rests (c.signalCollection id).polling := by
  rw [signalCollection]
  split
  · exact .of_eq rfl
  · next l found =>
    have hsignal : c.polling.Rests (c.setCollectionLoop id { l with signalled := true }).polling :=
      .modify found rfl rfl fun hq => hq
    dsimp only
    split
    · rw [overlooks_polling.soon]
      exact hsignal
    · exact hsignal

theorem rests_signalIfAny (c : Controller) (loop : Option Nat) :
    c.polling.Rests (c.signalIfAny loop).polling := by
  cases loop with
  | none => exact .of_eq rfl
  | some id => exact c.rests_signalCollection id

theorem rests_stop (c : Controller) (metricKey : String) :
    c.polling.Rests (c.stop metricKey).2.polling := by
  rw [stop]
  split
  · exact .of_eq rfl
  · exact c.rests_signalCollection _

theorem rests_shutDown (c : Controller) : c.polling.Rests c.shutDown.2.polling := by
  rw [overlooks_polling.shutDown]
  generalize c.aliveCollections = ids
  induction ids generalizing c with
  | nil => exact .of_eq rfl
  | cons id ids ih => exact (c.rests_signalCollection id).trans (ih _)

/-! ## Metrics -/

theorem rests_remove (c : Controller) (metricKey : String) :
    (c.polling.without metricKey).Rests (c.remove metricKey).polling := by
  have hstore : ({ c with store := c.store.remove metricKey } : Controller).polling =
      c.polling.without metricKey := by
    simp only [polling, Polling.without, Store.remove_eq]
  rw [remove, ← hstore]
  exact rests_signalIfAny _ _

theorem rests_cleared (c : Controller) (metricKey : String) :
    (c.polling.cleared metricKey).Rests (c.cleared metricKey).polling := by
  rw [cleared, Polling.cleared]
  have hmetrics : c.polling.metrics = c.store.metrics := rfl
  rw [hmetrics]
  split
  · exact c.rests_remove metricKey
  · exact .of_eq rfl

theorem polling_install (c : Controller) (metric : Metric) (specs : List ModelSpec)
    (config : CollectionConfig) :
    c.polling.Effect (.install metric specs config) (c.install metric specs config).2.polling := by
  have hcleared := c.rests_cleared metric.key
  rw [install]
  rw [← cleared]
  generalize c.cleared metric.key = c₁ at hcleared ⊢
  dsimp only
  split
  · exact .fails hcleared
  · next made _ =>
    refine .installs hcleared ?_
    dsimp only
    refine Polling.Rests.trans (.of_eq ?_) (rests_signalIfAny _ _)
    simp only [polling, Polling.put, spawnCollection, soon, call, Store.install_eq,
      Store.foldl_putModel_eq, Store.putMetric, List.filterMap_append]
    exact congrArg _ (List.append_nil _)

/-! ## Events -/

theorem polling_handle (c : Controller) (x : Event) :
    c.polling.Effect (.event x) (c.handle x).polling := by
  have nothing : c.polling.ended? (.event x) = none →
      c.polling.Effect (.event x) c.polling := fun silent => .rests rfl silent (.of_eq rfl)
  cases hx : x.collects with
  | false =>
    rw [overlooks_polling.handle c (fun _ _ _ => rfl) x hx]
    refine nothing ?_
    cases x with
    | queryEnds id answer => cases hx
    | _ => rfl
  | true =>
    cases x with
    | collectionStarts id =>
      simp only [handle, atCollection]
      split
      · next l found =>
        split
        · exact .rests rfl rfl (rests_startCollection found)
        · exact nothing rfl
      · exact nothing rfl
    | collectionDue id =>
      simp only [handle, atCollection]
      split
      · next l found =>
        split
        · next waiting => exact polling_tickCollection found waiting
        · exact nothing rfl
      · exact nothing rfl
    | collectionSignalled id =>
      simp only [handle, atCollection]
      split
      · next l found =>
        split
        · split
          · rw [polling_endCollection]
            exact .rests rfl rfl (.modify found rfl rfl fun hq => by cases hq)
          · exact nothing rfl
        · exact nothing rfl
      · exact nothing rfl
    | queryEnds id answer =>
      simp only [handle, atCollection]
      split
      · next l found =>
        split
        · next querying => exact polling_endQuery found querying
        · next idle =>
          have found : c.polling.loops.get? id = some l := found
          exact nothing (by simp only [Polling.ended?, found, idle, if_false])
      · next missing =>
        have missing : c.polling.loops.get? id = none := missing
        exact nothing (by simp only [Polling.ended?, missing])
    | _ => cases hx

/-- Every turn has an effect of one of these kinds. -/
theorem polling_takes (c : Controller) (x : Turn) : c.polling.Effect x (c.takes x).polling := by
  cases x with
  | install metric specs config => exact c.polling_install metric specs config
  | remove metricKey => exact .removes (c.rests_remove metricKey)
  | stop metricKey => exact .rests rfl rfl (c.rests_stop metricKey)
  | shutDown => exact .rests rfl rfl c.rests_shutDown
  | evaluate =>
    refine .rests rfl rfl (.of_eq ?_)
    exact overlooks_polling.beginEvaluation c (fun _ _ _ => rfl) none
  | event x => exact c.polling_handle x

end Controller

end PredictiveScaling
