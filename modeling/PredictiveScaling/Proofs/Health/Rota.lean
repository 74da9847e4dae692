import PredictiveScaling.Proofs.Controller.Polling

/-!
# Rotas

Who looks after the health of a metric changes with its collectors: the loop of a new one
registers it, reports after each query and takes the entry away when it ends, unless there is a
collector under the key again. Beside the loops with all that they know it matters which
collectors are registered, and which loop is told when a metric goes. A turn moves one loop on, or
tells loops, or a metric goes or comes (`Rota.Effect`), and the one entry that it writes can be
seen before it happens (`Rota.written?`).
-/
namespace PredictiveScaling

/-- Whether a turn tells loops to stop although their metrics stay. -/
def Turn.halts : Turn → Bool
  | .stop _ | .shutDown => true
  | _ => false

namespace ComponentHealth

/-- What a part reports that is well. -/
def healthy (now : Int64) : ComponentHealth := ⟨.healthy, none, now⟩

/-- What is reported of a query that has ended. -/
def ofQuery (now : Int64) (answer : Option (Except SourceError (List Sample))) :
    ComponentHealth :=
  match Controller.queryFailure? answer with
  | none => .healthy now
  | some message => ⟨.degraded, some message, now⟩

end ComponentHealth

structure Rota where
  /-- The numbers of the collectors under the keys of their metrics. -/
  registered : KeyMap String Nat
  /-- The loops that are told when a metric goes. -/
  stops : KeyMap String Nat
  loops : Arena CollectionLoop
  /-- The names of the workload itself. -/
  own : List String
  /-- What was reported last under any other name. -/
  shown? : String → Option ComponentHealth

/-- A loop writes or, without an entry, takes away what is known of a metric. -/
structure Writing where
  loop : Nat
  key : String
  entry : Option ComponentHealth

namespace Rota

/-! ## What can happen -/

def report (p : Rota) (key : String) (entry : Option ComponentHealth) : Rota :=
  { p with shown? := Function.update p.shown? (collectorComponent key) entry }

def write (p : Rota) : Option Writing → Rota
  | none => p
  | some w => p.report w.key w.entry

/-- A loop goes on as another one. -/
def move (p : Rota) (i : Nat) (l : CollectionLoop) : Rota :=
  { p with loops := p.loops.modify i fun _ => l }

def tell (p : Rota) (i : Nat) : Rota :=
  match p.loops.get? i with
  | none => p
  | some l => p.move i { l with signalled := true }

def tellIfAny (p : Rota) : Option Nat → Rota
  | none => p
  | some i => p.tell i

def drop (p : Rota) (metricKey : String) : Rota :=
  { p with registered := p.registered.erase metricKey, stops := p.stops.erase metricKey }

/-- A metric goes, and the loop that it names is told. -/
def without (p : Rota) (metricKey : String) : Rota :=
  (p.drop metricKey).tellIfAny (p.stops.find? metricKey)

/-- A collector comes with a loop of its own. -/
def join (p : Rota) (n : Nat) (l : CollectionLoop) : Rota :=
  { p with
    registered := p.registered.insert l.key n
    stops := p.stops.insert l.key p.loops.size
    loops := p.loops.push l }

/-- A collector comes, and the loop that was named before is told. -/
def put (p : Rota) (n : Nat) (l : CollectionLoop) : Rota :=
  (p.join n l).tellIfAny (p.stops.find? l.key)

/-! ## Writings -/

/-- The loop with a number, if it is in a phase. -/
def inPhase? (p : Rota) (i : Nat) (phase : CollectionPhase) : Option CollectionLoop :=
  (p.loops.get? i).filter fun l => l.phase = phase

/-- A loop writes something, if it reports at all. -/
def notes? (i : Nat) (l : CollectionLoop) (entry : Option ComponentHealth) : Option Writing :=
  if l.reports then some ⟨i, l.key, entry⟩ else none

/-- A loop that ends leaves no entry behind, but for a collector that is registered now. -/
def leaves? (p : Rota) (i : Nat) (l : CollectionLoop) : Option Writing :=
  if p.registered.contains l.key then none else notes? i l none

/-- The one entry that is written in a turn. -/
def written? (p : Rota) (now : Int64) : Turn → Option Writing
  | .event (.collectionStarts i) =>
    (p.inPhase? i .starting).bind fun l => notes? i l (some (.healthy now))
  | .event (.queryEnds i answer) =>
    (p.inPhase? i .querying).bind fun l => notes? i l (some (.ofQuery now answer))
  | .event (.collectionDue i) => (p.inPhase? i .waiting).bind (p.leaves? i)
  | .event (.collectionSignalled i) =>
    (p.inPhase? i .waiting).bind fun l => if l.signalled then p.leaves? i l else none
  | _ => none

/-! ## Effects -/

/-- A turn moves a loop on to a phase. -/
inductive Moves (p : Rota) (l : CollectionLoop) (i : Nat) : Turn → CollectionPhase → Prop where
  | starts (starting : l.phase = .starting) : Moves p l i (.event (.collectionStarts i))
      (if l.ticker.period.millis = 0 then .ended else .waiting)
  | asks (waiting : l.phase = .waiting)
      (registered : p.registered.find? l.key = some l.collector) :
      Moves p l i (.event (.collectionDue i)) .querying
  | answers {answer : Option (Except SourceError (List Sample))}
      (querying : l.phase = .querying) : Moves p l i (.event (.queryEnds i answer)) .waiting
  | gives_up (waiting : l.phase = .waiting)
      (unregistered : p.registered.find? l.key ≠ some l.collector) :
      Moves p l i (.event (.collectionDue i)) .ended
  | obeys (waiting : l.phase = .waiting) (signalled : l.signalled = true) :
      Moves p l i (.event (.collectionSignalled i)) .ended

/-- What a turn does to loops, and what it writes. -/
inductive Effect (p : Rota) (now : Int64) : Turn → Rota → Prop where
  | rests {x : Turn} (keeps : x.replaces? = none) (silent : p.written? now x = none) :
      Effect p now x p
  | tells {x : Turn} (halts : x.halts = true) (ids : List Nat) : Effect p now x (ids.foldl tell p)
  | moves {x : Turn} {i : Nat} {l : CollectionLoop} {phase : CollectionPhase} {ticker : Ticker}
      (found : p.loops.get? i = some l) (moves : p.Moves l i x phase)
      (period_eq : ticker.period = l.ticker.period) :
      Effect p now x ((p.move i { l with ticker, phase }).write (p.written? now x))
  | removes {metricKey : String} : Effect p now (.remove metricKey) (p.without metricKey)
  | fails {metric : Metric} {specs : List ModelSpec} {config : CollectionConfig} {p₁ : Rota}
      (faulty : specs.findSome? ModelSpec.fault? ≠ none)
      (cleared : p₁ = p ∨ p₁ = p.without metric.key) :
      Effect p now (.install metric specs config) p₁
  | installs {metric : Metric} {specs : List ModelSpec} {config : CollectionConfig} {p₁ : Rota}
      (flawless : specs.findSome? ModelSpec.fault? = none)
      (cleared : p₁ = p ∨ p₁ = p.without metric.key) (n : Nat) :
      Effect p now (.install metric specs config) (p₁.put n (.new n metric.key config true))

variable {p : Rota} {i : Nat} {l : CollectionLoop} {phase : CollectionPhase}

theorem inPhase?_of_found (found : p.loops.get? i = some l) (reached : l.phase = phase) :
    p.inPhase? i phase = some l := by
  rw [inPhase?, found]
  exact Option.filter_some_pos (decide_eq_true reached)

theorem inPhase?_of_ne (found : p.loops.get? i = some l) (other : l.phase ≠ phase) :
    p.inPhase? i phase = none := by
  rw [inPhase?, found]
  exact Option.filter_some_neg (decide_eq_false other)

theorem inPhase?_of_missing (missing : p.loops.get? i = none) (phase : CollectionPhase) :
    p.inPhase? i phase = none := by
  rw [inPhase?, missing, Option.filter_none]

/-- A loop moves on, and what is written may be given in another form. -/
theorem Effect.of_moves {now : Int64} {x : Turn} {w : Option Writing}
    (written : p.written? now x = w) (found : p.loops.get? i = some l) (moves : p.Moves l i x phase)
    (ticker : Ticker) (period_eq : ticker.period = l.ticker.period) :
    p.Effect now x ((p.move i { l with ticker, phase }).write w) :=
  written ▸ .moves found moves period_eq

theorem move_write (p : Rota) (i : Nat) (l : CollectionLoop) (w : Option Writing) :
    (p.write w).move i l = (p.move i l).write w := by
  cases w <;> rfl

end Rota

namespace Controller

variable {c : Controller} {i : Nat} {l : CollectionLoop}

def rota (c : Controller) : Rota where
  registered := c.store.collectors
  stops := c.store.stops
  loops := c.collectionLoops
  own := c.workload.ownComponents
  shown? name :=
    if name ∈ c.workload.ownComponents then none else c.health.components.find? name

theorem shown?_rota (c : Controller) (name : String) : c.rota.shown? name =
    if name ∈ c.workload.ownComponents then none else c.health.components.find? name :=
  rfl

theorem shown?_rota_collector (c : Controller) (key : String) :
    c.rota.shown? (collectorComponent key) =
      c.health.components.find? (collectorComponent key) := by
  rw [shown?_rota, if_neg (c.workload.collectorComponent_notMem_ownComponents key)]

theorem rota_withHealth {health : HealthRegistry} {shown? : String → Option ComponentHealth}
    (h : ∀ name, shown? name =
      if name ∈ c.workload.ownComponents then none else health.components.find? name) :
    ({ c with health } : Controller).rota = { c.rota with shown? } :=
  congrArg (Rota.mk _ _ _ _) (funext fun name => (h name).symm)

/-- What is reported of a workload itself does not matter to its collectors. -/
theorem overlooks_rota : Overlooks rota where
  call _ _ _ := rfl
  evaluations _ _ := rfl
  evaluationLoops _ _ := rfl
  awaited _ _ := rfl
  scaler _ _ := rfl
  reports c component entry own := by
    refine rota_withHealth fun name => ?_
    by_cases same : name ∈ c.workload.ownComponents
    · rw [if_pos same, if_pos same]
    · rw [if_neg same, if_neg same]
      have other : component ≠ name := fun equal => same (equal ▸ own)
      exact (KeyMap.find?_insert_of_ne _ other entry).symm
  telemetry _ _ := rfl
  putRemote _ _ _ _ := rfl

/-! ## Reports of collectors -/

/-- What is under the name of a collector changes, and nothing else. -/
theorem rota_reported (c : Controller) (health : HealthRegistry) (key : String)
    (entry : Option ComponentHealth) (changed : ∀ name, health.components.find? name =
      if collectorComponent key = name then entry else c.health.components.find? name) :
    ({ c with health } : Controller).rota = c.rota.report key entry := by
  refine rota_withHealth fun name => ?_
  rw [Function.update_apply, shown?_rota, changed]
  by_cases same : name = collectorComponent key
  · subst same
    rw [if_pos rfl, if_neg (c.workload.collectorComponent_notMem_ownComponents key), if_pos rfl]
  · rw [if_neg same, if_neg (Ne.symm same)]

theorem rota_update (c : Controller) (key : String) (entry : ComponentHealth) :
    ({ c with health := c.health.update (collectorComponent key) entry } : Controller).rota =
      c.rota.report key (some entry) :=
  c.rota_reported _ key (some entry) fun name => KeyMap.find?_insert _ _ name entry

theorem rota_forgetHealth (c : Controller) (key : String) :
    (c.forgetHealth (collectorComponent key)).rota = c.rota.report key none :=
  c.rota_reported _ key none fun name => KeyMap.find?_erase _ _ name

/-! ## Loops -/

theorem rota_call (c : Controller) (x : Call) : (c.call x).rota = c.rota :=
  rfl

theorem rota_setCollectionLoop (c : Controller) (i : Nat) (l : CollectionLoop) :
    (c.setCollectionLoop i l).rota = c.rota.move i l :=
  rfl

theorem rota_awaitCollectionTick (c : Controller) (i : Nat) (l : CollectionLoop) :
    (c.awaitCollectionTick i l).rota = c.rota.move i { l with phase := .waiting } := by
  simp only [awaitCollectionTick]
  rw [overlooks_rota.call _ _ rfl]
  split
  · rw [overlooks_rota.soon, rota_setCollectionLoop]
  · rw [rota_setCollectionLoop]

/-- Reporting, or not, writes what a loop notes. -/
theorem rota_notes (c : Controller) (i : Nat) (l : CollectionLoop) (entry : ComponentHealth) :
    (if l.reports then
        { c with health := c.health.update (collectorComponent l.key) entry }
      else c : Controller).rota = c.rota.write (Rota.notes? i l (some entry)) := by
  rw [Rota.notes?]
  split
  · exact c.rota_update l.key entry
  · rfl

theorem rota_endCollection (c : Controller) (i : Nat) (l : CollectionLoop) :
    (c.endCollection i l).rota =
      (c.rota.move i { l with phase := .ended }).write (c.rota.leaves? i l) := by
  simp only [endCollection]
  split
  · next gone =>
    obtain ⟨reports, absent⟩ := gone
    have absent : ¬ c.rota.registered.contains l.key = true := absent
    rw [rota_forgetHealth, Rota.leaves?, if_neg absent, Rota.notes?, if_pos reports]
    rfl
  · next stays =>
    rw [rota_setCollectionLoop, Rota.leaves?, Rota.notes?]
    split
    · rfl
    · next absent =>
      rw [if_neg fun reports => stays ⟨reports, absent⟩]
      rfl

theorem rota_startCollection (found : c.collectionLoops.get? i = some l)
    (starting : l.phase = .starting) :
    c.rota.Effect c.seconds (.event (.collectionStarts i)) (c.startCollection i l).rota := by
  have hwritten : c.rota.written? c.seconds (.event (.collectionStarts i)) =
      Rota.notes? i l (some (.healthy c.seconds)) := by
    rw [Rota.written?, Rota.inPhase?_of_found found starting, Option.bind_some]
  have hmoves := @Rota.Moves.starts c.rota l i starting
  -- the report comes first
  have hgoes : ∀ c₁ : Controller,
      c₁.rota = c.rota.write (Rota.notes? i l (some (.healthy c.seconds))) →
        c.rota.Effect c.seconds (.event (.collectionStarts i))
          (if l.ticker.period.millis = 0 then c₁.setCollectionLoop i { l with phase := .ended }
            else c₁.awaitCollectionTick i
              { l with ticker := .start l.ticker.period c₁.now.timer }).rota := by
    intro c₁ said
    split
    · next broken =>
      rw [if_pos broken] at hmoves
      rw [rota_setCollectionLoop, said, Rota.move_write]
      exact .of_moves hwritten found hmoves _ rfl
    · next sound =>
      rw [if_neg sound] at hmoves
      rw [rota_awaitCollectionTick, said, Rota.move_write]
      exact .of_moves hwritten (l := l) found hmoves _ rfl
  exact hgoes _ (c.rota_notes i l _)

theorem rota_tickCollection (found : c.collectionLoops.get? i = some l)
    (waiting : l.phase = .waiting) :
    c.rota.Effect c.seconds (.event (.collectionDue i)) (c.tickCollection i l).rota := by
  have hwritten : c.rota.written? c.seconds (.event (.collectionDue i)) = c.rota.leaves? i l := by
    rw [Rota.written?, Rota.inPhase?_of_found found waiting, Option.bind_some]
  simp only [tickCollection]
  split
  · next registered =>
    rw [Store.isRegistered, beq_iff_eq] at registered
    have registered : c.rota.registered.find? l.key = some l.collector := registered
    rw [Rota.leaves?, if_pos (KeyMap.contains_eq_of_find? registered)] at hwritten
    rw [rota_call]
    exact .of_moves hwritten found (.asks waiting registered) _ rfl
  · next unregistered =>
    rw [Store.isRegistered, beq_iff_eq] at unregistered
    rw [rota_endCollection]
    exact .of_moves hwritten (l := l) found (.gives_up waiting unregistered) _ rfl

theorem rota_endQuery {answer : Option (Except SourceError (List Sample))}
    (found : c.collectionLoops.get? i = some l) (querying : l.phase = .querying) :
    c.rota.Effect c.seconds (.event (.queryEnds i answer)) (c.endQuery i l answer).rota := by
  have hwritten : c.rota.written? c.seconds (.event (.queryEnds i answer)) =
      Rota.notes? i l (some (.ofQuery c.seconds answer)) := by
    rw [Rota.written?, Rota.inPhase?_of_found found querying, Option.bind_some]
  -- the report comes first
  have hgoes : ∀ c₁ : Controller,
      c₁.rota = c.rota.write (Rota.notes? i l (some (.ofQuery c.seconds answer))) →
        c.rota.Effect c.seconds (.event (.queryEnds i answer))
          (c₁.awaitCollectionTick i l).rota := by
    intro c₁ said
    rw [rota_awaitCollectionTick, said, Rota.move_write]
    exact .of_moves hwritten found (.answers querying) _ rfl
  have htake : (c.takeAnswer l.collector answer).rota = c.rota ∧
      (c.takeAnswer l.collector answer).seconds = c.seconds := by
    cases answer <;> exact ⟨rfl, rfl⟩
  simp only [endQuery]
  refine hgoes _ ?_
  generalize c.takeAnswer l.collector answer = c₁ at htake ⊢
  rw [← htake.1, ← htake.2, ComponentHealth.ofQuery]
  cases queryFailure? answer with
  | none => exact (c₁.count _).rota_notes i l _
  | some message => exact (c₁.count _).rota_notes i l _

theorem rota_obey (found : c.collectionLoops.get? i = some l) (waiting : l.phase = .waiting) :
    c.rota.Effect c.seconds (.event (.collectionSignalled i))
      (if l.signalled then c.endCollection i l else c).rota := by
  have hwritten : c.rota.written? c.seconds (.event (.collectionSignalled i)) =
      if l.signalled then c.rota.leaves? i l else none := by
    rw [Rota.written?, Rota.inPhase?_of_found found waiting, Option.bind_some]
  split
  · next signalled =>
    rw [if_pos signalled] at hwritten
    rw [rota_endCollection]
    exact .of_moves hwritten found (.obeys waiting signalled) _ rfl
  · next untold =>
    rw [if_neg untold] at hwritten
    exact .rests rfl hwritten

/-! ## Signals -/

theorem rota_signalCollection (c : Controller) (i : Nat) :
    (c.signalCollection i).rota = c.rota.tell i := by
  have hloops : c.rota.loops = c.collectionLoops := rfl
  rw [signalCollection, Rota.tell, hloops]
  cases c.collectionLoops.get? i with
  | none => rfl
  | some l =>
    dsimp only
    split
    · rw [overlooks_rota.soon, rota_setCollectionLoop]
    · rw [rota_setCollectionLoop]

theorem rota_signalIfAny (c : Controller) (loop : Option Nat) :
    (c.signalIfAny loop).rota = c.rota.tellIfAny loop := by
  cases loop with
  | none => rfl
  | some i => exact c.rota_signalCollection i

theorem rota_shutDown (c : Controller) :
    c.shutDown.2.rota = c.aliveCollections.foldl Rota.tell c.rota := by
  rw [overlooks_rota.shutDown]
  exact (List.foldl_hom rota fun c i => (rota_signalCollection c i).symm).symm

/-! ## Metrics -/

theorem rota_remove (c : Controller) (metricKey : String) :
    (c.remove metricKey).rota = c.rota.without metricKey := by
  rw [remove, rota_signalIfAny, Store.remove_eq]
  rfl

theorem rota_cleared (c : Controller) (metricKey : String) :
    (c.cleared metricKey).rota = c.rota ∨
      (c.cleared metricKey).rota = c.rota.without metricKey := by
  rw [cleared]
  split
  · exact .inr (c.rota_remove metricKey)
  · exact .inl rfl

theorem rota_install (c : Controller) (metric : Metric) (specs : List ModelSpec)
    (config : CollectionConfig) : c.rota.Effect c.seconds (.install metric specs config)
      (c.install metric specs config).2.rota := by
  have hcleared := c.rota_cleared metric.key
  rw [install]
  rw [← cleared]
  generalize c.cleared metric.key = c₁ at hcleared ⊢
  dsimp only
  rcases makePredictors_cases metric c₁.collectors.size specs with
    ⟨fault, faulty, failed⟩ | ⟨flawless, made, succeeded, -, -⟩
  · rw [failed]
    exact .fails (Option.ne_none_iff_exists'.2 ⟨fault, faulty⟩) hcleared
  · rw [succeeded]
    dsimp only
    rw [rota_signalIfAny]
    simp only [spawnCollection, Store.install_eq, Store.foldl_putModel_eq, Store.putMetric]
    exact .installs flawless hcleared c₁.collectors.size

/-! ## Turns -/

theorem rota_handle (c : Controller) (x : Event) :
    c.rota.Effect c.seconds (.event x) (c.handle x).rota := by
  have hat : ∀ (i : Nat) (phase : CollectionPhase) (f : CollectionLoop → Controller),
      (∀ l, c.collectionLoops.get? i = some l → l.phase = phase →
        c.rota.Effect c.seconds (.event x) (f l).rota) →
      (c.rota.inPhase? i phase = none → c.rota.written? c.seconds (.event x) = none) →
      c.rota.Effect c.seconds (.event x) (c.atCollection i phase f).rota := by
    intro i phase f goes silent
    rw [atCollection]
    split
    · next l found =>
      split
      · next reached => exact goes l found reached
      · next other => exact .rests rfl (silent (Rota.inPhase?_of_ne found other))
    · next missing => exact .rests rfl (silent (Rota.inPhase?_of_missing missing phase))
  cases hx : x.collects with
  | false =>
    rw [overlooks_rota.handle c (fun _ _ _ => rfl) x hx]
    refine .rests rfl ?_
    cases x with
    | collectionStarts | collectionDue | collectionSignalled | queryEnds => cases hx
    | _ => rfl
  | true =>
    cases x with
    | collectionStarts i =>
      refine hat i .starting _ (fun l found => rota_startCollection found) fun idle => ?_
      rw [Rota.written?, idle, Option.bind_none]
    | collectionDue i =>
      refine hat i .waiting _ (fun l found => rota_tickCollection found) fun idle => ?_
      rw [Rota.written?, idle, Option.bind_none]
    | collectionSignalled i =>
      refine hat i .waiting _ (fun l found => rota_obey found) fun idle => ?_
      rw [Rota.written?, idle, Option.bind_none]
    | queryEnds i answer =>
      refine hat i .querying _ (fun l found => rota_endQuery found) fun idle => ?_
      rw [Rota.written?, idle, Option.bind_none]
    | _ => cases hx

/-- Every turn has an effect of one of these kinds. -/
theorem rota_takes (c : Controller) (x : Turn) :
    c.rota.Effect c.seconds x (c.takes x).rota := by
  cases x with
  | install metric specs config => exact c.rota_install metric specs config
  | remove metricKey =>
    rw [takes, rota_remove]
    exact .removes
  | stop metricKey =>
    rw [takes, stop]
    split
    · exact .tells rfl []
    · next i _ =>
      rw [rota_signalCollection]
      exact .tells rfl [i]
  | shutDown =>
    rw [takes, rota_shutDown]
    exact .tells rfl _
  | evaluate =>
    rw [takes, overlooks_rota.beginEvaluation c (fun _ _ _ => rfl) none]
    exact .rests rfl rfl
  | event x => exact c.rota_handle x

end Controller

end PredictiveScaling
