import PredictiveScaling.Proofs.Controller.Removal
import PredictiveScaling.Proofs.Health.Rota

/-!
# Watches

What a turn makes of the entry of a metric, and of each loop. An entry changes only when a loop
writes it; a loop comes with its metric, is told once when the metric goes and moves on by its own
events, and it is not there before its metric was installed.
-/
namespace PredictiveScaling

namespace Rota

variable {p p' : Rota} {now : Int64} {x : Turn} {i j : Nat} {l l' : CollectionLoop}
  {phase : CollectionPhase} {w : Writing}

/-! ## What an effect writes -/

theorem loops_write (p : Rota) (w : Option Writing) : (p.write w).loops = p.loops := by
  cases w <;> rfl

/-- Telling a loop touches nothing but loops. -/
theorem tellIfAny_eq (p : Rota) (loop : Option Nat) :
    p.tellIfAny loop = { p with loops := (p.tellIfAny loop).loops } := by
  cases loop with
  | none => rfl
  | some i =>
    rw [tellIfAny, tell]
    split <;> rfl

theorem foldl_tell_eq (ids : List Nat) (p : Rota) :
    ids.foldl tell p = { p with loops := (ids.foldl tell p).loops } := by
  induction ids generalizing p with
  | nil => rfl
  | cons i ids ih =>
    rw [List.foldl_cons, ih]
    have htell := p.tellIfAny_eq (some i)
    rw [tellIfAny] at htell
    rw [htell]

theorem shown?_without (p : Rota) (metricKey : String) :
    (p.without metricKey).shown? = p.shown? := by
  rw [without, tellIfAny_eq]
  rfl

theorem shown?_put (p : Rota) (n : Nat) (l : CollectionLoop) : (p.put n l).shown? = p.shown? := by
  rw [put, tellIfAny_eq]
  rfl

theorem shown?_of_cleared {metricKey : String} (cleared : p' = p ∨ p' = p.without metricKey) :
    p'.shown? = p.shown? := by
  rcases cleared with rfl | rfl
  · rfl
  · exact p.shown?_without metricKey

theorem Effect.own_eq (effect : p.Effect now x p') : p'.own = p.own := by
  have hcleared : ∀ {p₁ : Rota} {metricKey}, p₁ = p ∨ p₁ = p.without metricKey →
      p₁.own = p.own := by
    rintro p₁ metricKey (rfl | rfl)
    · rfl
    · rw [without, tellIfAny_eq]
      rfl
  cases effect with
  | rests => rfl
  | tells _ ids => rw [foldl_tell_eq]
  | moves => cases p.written? now x <;> rfl
  | removes => exact hcleared (.inr rfl)
  | fails _ cleared => exact hcleared cleared
  | installs _ cleared n =>
    have hown := hcleared cleared
    rw [put, tellIfAny_eq]
    exact hown

/-- A turn writes the one entry that is seen before, and leaves all others. -/
theorem Effect.shown?_eq (effect : p.Effect now x p') :
    p'.shown? = (p.write (p.written? now x)).shown? := by
  cases effect with
  | rests _ silent => rw [silent]; rfl
  | tells halts ids =>
    rw [foldl_tell_eq]
    cases x with
    | stop | shutDown => rfl
    | _ => cases halts
  | moves found moves _ =>
    cases p.written? now x <;> rfl
  | removes => exact p.shown?_without _
  | fails _ cleared => exact shown?_of_cleared cleared
  | installs _ cleared n => exact (shown?_put _ n _).trans (shown?_of_cleared cleared)

/-- Who writes: a loop that starts or whose query ends, and one that waits and finds no collector
under its key. Only the last one takes the entry away. -/
theorem exists_loop_of_written? (written : p.written? now x = some w) :
    ∃ l, p.loops.get? w.loop = some l ∧ l.key = w.key ∧
      ((l.phase = .starting ∨ l.phase = .querying) ∧ w.entry.isSome = true ∨
        l.phase = .waiting ∧ p.registered.contains w.key = false) := by
  have hfound : ∀ {i phase l}, p.inPhase? i phase = some l →
      p.loops.get? i = some l ∧ l.phase = phase := by
    intro i phase l found
    obtain ⟨found, reached⟩ := Option.filter_eq_some_iff.1 found
    exact ⟨found, of_decide_eq_true reached⟩
  have hnotes : ∀ {i l entry}, notes? i l entry = some w → w = ⟨i, l.key, entry⟩ := by
    intro i l entry notes
    rw [notes?, Option.ite_none_right_eq_some] at notes
    exact (Option.some.inj notes.2).symm
  have hleaves : ∀ {i l}, p.leaves? i l = some w →
      w = ⟨i, l.key, none⟩ ∧ p.registered.contains l.key = false := by
    intro i l leaves
    rw [leaves?, Option.ite_none_left_eq_some] at leaves
    exact ⟨hnotes leaves.2, Bool.eq_false_iff.2 leaves.1⟩
  cases x with
  | event x =>
    cases x with
    | collectionStarts i =>
      obtain ⟨l, found, notes⟩ := Option.bind_eq_some_iff.1 written
      obtain ⟨found, starting⟩ := hfound found
      obtain rfl := hnotes notes
      exact ⟨l, found, rfl, .inl ⟨.inl starting, rfl⟩⟩
    | queryEnds i answer =>
      obtain ⟨l, found, notes⟩ := Option.bind_eq_some_iff.1 written
      obtain ⟨found, querying⟩ := hfound found
      obtain rfl := hnotes notes
      exact ⟨l, found, rfl, .inl ⟨.inr querying, rfl⟩⟩
    | collectionDue i =>
      obtain ⟨l, found, leaves⟩ := Option.bind_eq_some_iff.1 written
      obtain ⟨found, waiting⟩ := hfound found
      obtain ⟨rfl, absent⟩ := hleaves leaves
      exact ⟨l, found, rfl, .inr ⟨waiting, absent⟩⟩
    | collectionSignalled i =>
      obtain ⟨l, found, obeys⟩ := Option.bind_eq_some_iff.1 written
      obtain ⟨found, waiting⟩ := hfound found
      rw [Option.ite_none_right_eq_some] at obeys
      obtain ⟨rfl, absent⟩ := hleaves obeys.2
      exact ⟨l, found, rfl, .inr ⟨waiting, absent⟩⟩
    | _ => cases written
  | _ => cases written

/-- A loop that starts or queries can write at any time. -/
theorem exists_written?_of_underWay (now : Int64) (found : p.loops.get? i = some l)
    (reports : l.reports = true) (underWay : l.phase = .starting ∨ l.phase = .querying) :
    ∃ x w, p.written? now (.event x) = some w ∧ w.loop = i ∧ w.key = l.key ∧
      w.entry.isSome = true := by
  rcases underWay with starting | querying
  · refine ⟨.collectionStarts i, ⟨i, l.key, some (.healthy now)⟩, ?_, rfl, rfl, rfl⟩
    rw [written?, inPhase?_of_found found starting, Option.bind_some, notes?, if_pos reports]
  · refine ⟨.queryEnds i none, ⟨i, l.key, some (.ofQuery now none)⟩, ?_, rfl, rfl, rfl⟩
    rw [written?, inPhase?_of_found found querying, Option.bind_some, notes?, if_pos reports]

theorem shown?_write_of_ne {name : String}
    (h : ∀ w, p.written? now x = some w → collectorComponent w.key ≠ name) :
    (p.write (p.written? now x)).shown? name = p.shown? name := by
  cases written : p.written? now x with
  | none => rfl
  | some w =>
    rw [write, report]
    exact Function.update_of_ne (h w written).symm _ _

theorem shown?_write_self (written : p.written? now x = some w) :
    (p.write (p.written? now x)).shown? (collectorComponent w.key) = w.entry := by
  rw [written, write, report]
  exact Function.update_self _ _ _

/-- What is known of a registered collector is not taken away. -/
theorem isSome_shown?_write {key : String} (registered : p.registered.contains key = true)
    (known : (p.shown? (collectorComponent key)).isSome = true) :
    ((p.write (p.written? now x)).shown? (collectorComponent key)).isSome = true := by
  by_cases own : ∃ w, p.written? now x = some w ∧ w.key = key
  · obtain ⟨w, written, rfl⟩ := own
    rw [shown?_write_self written]
    obtain ⟨l, -, -, ⟨-, reported⟩ | ⟨-, absent⟩⟩ := exists_loop_of_written? written
    · exact reported
    · cases absent.symm.trans registered
  · rw [shown?_write_of_ne fun w written same =>
      own ⟨w, written, collectorComponent_inj.1 same⟩]
    exact known

/-! ## What becomes of loops -/

/-- What a turn makes of a loop. One is told when the metric goes that names it, or by name. -/
inductive Becomes (p p' : Rota) (x : Turn) (i : Nat) (l : CollectionLoop) :
    CollectionLoop → Prop where
  | stays : Becomes p p' x i l l
  | told (reason : x.halts = true ∨
      ∃ key, p.stops.find? key = some i ∧ p'.stops.find? key ≠ some i) :
      Becomes p p' x i l { l with signalled := true }
  | moves {phase : CollectionPhase} {ticker : Ticker} (moves : p.Moves l i x phase)
      (period_eq : ticker.period = l.ticker.period) :
      Becomes p p' x i l { l with ticker, phase }

theorem get?_tell (found : p.loops.get? i = some l) (j : Nat) :
    (p.tell j).loops.get? i = some (if j = i then { l with signalled := true } else l) := by
  rw [tell]
  split
  · next missing =>
    rw [if_neg, found]
    rintro rfl
    cases missing.symm.trans found
  · next l' found' =>
    rw [move, Arena.get?_modify, found]
    split
    · next same =>
      subst same
      cases found.symm.trans found'
      rfl
    · rfl

theorem get?_tellIfAny (found : p.loops.get? i = some l) (loop : Option Nat) :
    (p.tellIfAny loop).loops.get? i =
      some (if loop = some i then { l with signalled := true } else l) := by
  cases loop with
  | none => exact found
  | some j =>
    rw [tellIfAny, get?_tell found]
    simp only [Option.some.injEq]

theorem get?_foldl_tell (found : p.loops.get? i = some l) (ids : List Nat) :
    (ids.foldl tell p).loops.get? i =
      some (if i ∈ ids then { l with signalled := true } else l) := by
  induction ids generalizing p l with
  | nil => exact found
  | cons j ids ih =>
    rw [List.foldl_cons, ih (get?_tell found j)]
    by_cases same : j = i <;> by_cases mem : i ∈ ids <;> simp [same, mem, Ne.symm]

theorem size_tellIfAny (p : Rota) (loop : Option Nat) :
    (p.tellIfAny loop).loops.size = p.loops.size := by
  cases loop with
  | none => rfl
  | some i =>
    rw [tellIfAny, tell]
    split
    · rfl
    · exact Arena.size_modify _ _ _

theorem stops_without (p : Rota) (metricKey : String) :
    (p.without metricKey).stops = p.stops.erase metricKey := by
  rw [without, tellIfAny_eq]
  rfl

/-- No loop goes with a metric that is removed. -/
theorem find?_stops_without_ne (p : Rota) (metricKey : String) (i : Nat) :
    (p.without metricKey).stops.find? metricKey ≠ some i := by
  rw [stops_without, KeyMap.find?_erase_self]
  exact nofun

theorem registered_without (p : Rota) (metricKey : String) :
    (p.without metricKey).registered = p.registered.erase metricKey := by
  rw [without, tellIfAny_eq]
  rfl

theorem size_without (p : Rota) (metricKey : String) :
    (p.without metricKey).loops.size = p.loops.size :=
  size_tellIfAny _ _

theorem stops_put (p : Rota) (n : Nat) (l : CollectionLoop) :
    (p.put n l).stops = p.stops.insert l.key p.loops.size := by
  rw [put, tellIfAny_eq]
  rfl

theorem registered_put (p : Rota) (n : Nat) (l : CollectionLoop) :
    (p.put n l).registered = p.registered.insert l.key n := by
  rw [put, tellIfAny_eq]
  rfl

theorem size_put (p : Rota) (n : Nat) (l : CollectionLoop) :
    (p.put n l).loops.size = p.loops.size + 1 := by
  rw [put, size_tellIfAny]
  exact Arena.size_push _ _

/-- Removing tells the loop that goes with the metric. -/
theorem get?_without (found : p.loops.get? i = some l) (metricKey : String) :
    (p.without metricKey).loops.get? i =
      some (if p.stops.find? metricKey = some i then { l with signalled := true } else l) :=
  get?_tellIfAny (p := p.drop metricKey) found _

theorem get?_put (found : p.loops.get? i = some l) (n : Nat) (l₀ : CollectionLoop) :
    (p.put n l₀).loops.get? i =
      some (if p.stops.find? l₀.key = some i then { l with signalled := true } else l) :=
  get?_tellIfAny (p := p.join n l₀)
    ((Arena.get?_push_of_lt _ _ (Arena.lt_size_of_get? found)).trans found) _

theorem get?_put_self (p : Rota) (n : Nat) (l : CollectionLoop)
    (fresh : p.stops.find? l.key ≠ some p.loops.size) :
    (p.put n l).loops.get? p.loops.size = some l := by
  rw [put, get?_tellIfAny (p := p.join n l) (Arena.get?_push_self _ _) _, if_neg fresh]

/-- A loop of the metric that goes may have been told. -/
theorem becomes_without (x : Turn) (found : p.loops.get? i = some l) {metricKey : String}
    (gone : p'.stops.find? metricKey ≠ some i) :
    ∃ l', (p.without metricKey).loops.get? i = some l' ∧ p.Becomes p' x i l l' := by
  refine ⟨_, get?_without found metricKey, ?_⟩
  split
  · next told => exact .told (.inr ⟨metricKey, told, gone⟩)
  · exact .stays

/-- A loop is there for good. -/
theorem Effect.exists_becomes (effect : p.Effect now x p') (found : p.loops.get? i = some l) :
    ∃ l', p'.loops.get? i = some l' ∧ p.Becomes p' x i l l' := by
  have hlt := Arena.lt_size_of_get? found
  cases effect with
  | rests _ _ => exact ⟨l, found, .stays⟩
  | tells halts ids =>
    refine ⟨_, get?_foldl_tell found ids, ?_⟩
    split
    · exact .told (.inl halts)
    · exact .stays
  | @moves _ id l₀ phase ticker found₀ moves period_eq =>
    rw [loops_write, move, Arena.get?_modify, found]
    by_cases same : id = i
    · subst same
      cases found.symm.trans found₀
      rw [if_pos rfl]
      exact ⟨_, rfl, .moves moves period_eq⟩
    · rw [if_neg same]
      exact ⟨l, rfl, .stays⟩
  | @removes metricKey =>
    exact becomes_without _ found (p.find?_stops_without_ne metricKey i)
  | @fails metric _ _ _ _ cleared =>
    rcases cleared with rfl | rfl
    · exact ⟨l, found, .stays⟩
    · exact becomes_without _ found (p.find?_stops_without_ne metric.key i)
  | @installs metric specs config p₁ _ cleared n =>
    have hstop : ∀ p₁ : Rota, p₁.loops.size = p.loops.size →
        (p₁.put n (.new n metric.key config true)).stops.find? metric.key ≠ some i := by
      intro p₁ hsize
      rw [stops_put, CollectionLoop.new, KeyMap.find?_insert_self, hsize]
      exact fun same => Nat.lt_irrefl _ (Option.some.inj same ▸ hlt)
    rcases cleared with rfl | rfl
    · refine ⟨_, get?_put found n _, ?_⟩
      split
      · next told => exact .told (.inr ⟨metric.key, told, hstop _ rfl⟩)
      · exact .stays
    · -- the loop has been told by now and is not named any more
      obtain ⟨l', found', becomes⟩ := becomes_without (.install metric specs config) found
        (hstop _ (p.size_without metric.key))
      have unnamed := p.find?_stops_without_ne metric.key i
      exact ⟨l', (get?_put found' n _).trans (congrArg some (if_neg unnamed)), becomes⟩

/-- Stops name loops of their keys. -/
def Names (p : Rota) : Prop :=
  ∀ key i, p.stops.find? key = some i → ∃ l, p.loops.get? i = some l ∧ l.key = key

theorem Names.ne_size (names : p.Names) (key : String) :
    p.stops.find? key ≠ some p.loops.size := by
  intro named
  obtain ⟨l, found, -⟩ := names key _ named
  exact Nat.lt_irrefl _ (Arena.lt_size_of_get? found)

theorem size_foldl_tell (ids : List Nat) (p : Rota) :
    (ids.foldl tell p).loops.size = p.loops.size := by
  induction ids generalizing p with
  | nil => rfl
  | cons i ids ih => exact (ih _).trans (p.size_tellIfAny (some i))

theorem size_cleared {metricKey : String} (cleared : p' = p ∨ p' = p.without metricKey) :
    p'.loops.size = p.loops.size := by
  rcases cleared with rfl | rfl
  · rfl
  · exact p.size_without metricKey

/-- No loop that goes with a metric has the number of the next one. -/
theorem fresh_of_cleared {metricKey : String} (names : p.Names)
    (cleared : p' = p ∨ p' = p.without metricKey) :
    p'.stops.find? metricKey ≠ some p'.loops.size := by
  rcases cleared with rfl | rfl
  · exact names.ne_size metricKey
  · exact p.find?_stops_without_ne metricKey _

theorem maps_without (p : Rota) {metricKey key : String} (other : metricKey ≠ key) :
    (p.without metricKey).registered.find? key = p.registered.find? key ∧
      (p.without metricKey).stops.find? key = p.stops.find? key := by
  rw [registered_without, stops_without, KeyMap.find?_erase_of_ne _ other,
    KeyMap.find?_erase_of_ne _ other]
  exact ⟨rfl, rfl⟩

theorem maps_without_self (p : Rota) (key : String) :
    (p.without key).registered.find? key = none ∧ (p.without key).stops.find? key = none := by
  rw [registered_without, stops_without, KeyMap.find?_erase_self, KeyMap.find?_erase_self]
  exact ⟨rfl, rfl⟩

/-- What is under a key stays, or it goes, or it comes with a loop that has just been made. -/
theorem Effect.maps (effect : p.Effect now x p') (names : p.Names) (key : String) :
    (p'.registered.find? key = p.registered.find? key ∧
        p'.stops.find? key = p.stops.find? key) ∨
      (x.replaces? = some key ∧ p'.registered.find? key = none ∧ p'.stops.find? key = none) ∨
      ∃ metric specs config n, x = .install metric specs config ∧ metric.key = key ∧
        p'.registered.find? key = some n ∧ p'.stops.find? key = some p.loops.size ∧
        p'.loops.get? p.loops.size = some (.new n key config true) := by
  cases effect with
  | rests _ _ => exact .inl ⟨rfl, rfl⟩
  | tells _ ids =>
    rw [foldl_tell_eq]
    exact .inl ⟨rfl, rfl⟩
  | moves _ _ _ => cases p.written? now x <;> exact .inl ⟨rfl, rfl⟩
  | @removes metricKey =>
    by_cases same : metricKey = key
    · subst same
      exact .inr (.inl ⟨rfl, p.maps_without_self metricKey⟩)
    · exact .inl (p.maps_without same)
  | @fails metric _ _ _ _ cleared =>
    rcases cleared with rfl | rfl
    · exact .inl ⟨rfl, rfl⟩
    · by_cases same : metric.key = key
      · subst same
        exact .inr (.inl ⟨rfl, p.maps_without_self metric.key⟩)
      · exact .inl (p.maps_without same)
  | @installs metric specs config p₁ _ cleared n =>
    have hsize := size_cleared cleared
    by_cases same : metric.key = key
    · subst same
      refine .inr (.inr ⟨metric, specs, config, n, rfl, rfl, ?_, ?_, ?_⟩)
      · rw [registered_put]
        exact KeyMap.find?_insert_self _ _ _
      · rw [stops_put, ← hsize]
        exact KeyMap.find?_insert_self _ _ _
      · rw [← hsize]
        exact get?_put_self p₁ n _ (fresh_of_cleared names cleared)
    · have hput : (p₁.put n (.new n metric.key config true)).registered.find? key =
          p₁.registered.find? key ∧
          (p₁.put n (.new n metric.key config true)).stops.find? key = p₁.stops.find? key := by
        rw [registered_put, stops_put]
        exact ⟨KeyMap.find?_insert_of_ne _ same _, KeyMap.find?_insert_of_ne _ same _⟩
      rw [hput.1, hput.2]
      rcases cleared with rfl | rfl
      · exact .inl ⟨rfl, rfl⟩
      · exact .inl (p.maps_without same)

/-- Every loop was there before, or it has just been made for a metric. -/
theorem Effect.exists_origin (effect : p.Effect now x p') (names : p.Names)
    (found' : p'.loops.get? i = some l') :
    (∃ l, p.loops.get? i = some l ∧ p.Becomes p' x i l l') ∨
      ∃ metric specs config n, x = .install metric specs config ∧ i = p.loops.size ∧
        l' = .new n metric.key config true := by
  cases found : p.loops.get? i with
  | some l =>
    obtain ⟨l'', found'', becomes⟩ := effect.exists_becomes found
    cases found''.symm.trans found'
    exact .inl ⟨l, rfl, becomes⟩
  | none =>
    have hsize := (Arena.get?_eq_none_iff _ _).1 found
    have hlt := Arena.lt_size_of_get? found'
    have hold : p'.loops.size ≠ p.loops.size := fun same => by omega
    cases effect with
    | rests _ _ => exact absurd rfl hold
    | tells _ ids => exact absurd (size_foldl_tell ids p) hold
    | moves _ _ _ =>
      refine absurd ?_ hold
      rw [loops_write]
      exact Arena.size_modify _ _ _
    | removes => exact absurd (p.size_without _) hold
    | fails _ cleared => exact absurd (size_cleared cleared) hold
    | @installs metric specs config p₁ _ cleared n =>
      have hlast : i = p₁.loops.size := by
        rw [size_put, size_cleared cleared] at hlt
        rw [size_cleared cleared]
        omega
      rw [hlast, get?_put_self p₁ n _ (fresh_of_cleared names cleared), Option.some.injEq] at found'
      exact .inr ⟨metric, specs, config, n, rfl, hlast.trans (size_cleared cleared), found'.symm⟩

/-- A metric whose models can all be made comes with a loop. -/
theorem Effect.installed {metric : Metric} {specs : List ModelSpec} {config : CollectionConfig}
    (effect : p.Effect now (.install metric specs config) p') (names : p.Names)
    (flawless : specs.findSome? ModelSpec.fault? = none) :
    ∃ n, p'.registered.find? metric.key = some n ∧
      p'.loops.get? p.loops.size = some (.new n metric.key config true) := by
  cases effect with
  | rests keeps _ => cases keeps
  | tells halts _ => cases halts
  | moves _ moves _ => cases moves
  | fails faulty _ => exact absurd flawless faulty
  | @installs _ _ _ p₁ _ cleared n =>
    refine ⟨n, ?_, ?_⟩
    · rw [registered_put]
      exact KeyMap.find?_insert_self _ _ _
    · rw [← size_cleared cleared]
      exact get?_put_self p₁ n _ (fresh_of_cleared names cleared)

/-! ## Where loops stand -/

/-- A loop that has its first turn is not starting any more. -/
theorem Effect.starts (effect : p.Effect now (.event (.collectionStarts i)) p')
    (found : p.loops.get? i = some l) (reports : l.reports = true) :
    p'.inPhase? i .starting = none := by
  cases effect with
  | rests _ silent =>
    refine inPhase?_of_ne found fun starting => ?_
    rw [written?, inPhase?_of_found found starting, Option.bind_some, notes?, if_pos reports]
      at silent
    cases silent
  | tells halts _ => cases halts
  | @moves _ _ l₀ _ ticker found₀ moves _ =>
    cases moves with
    | starts =>
      cases found.symm.trans found₀
      rw [inPhase?, loops_write, move, Arena.get?_modify_self, found, Option.map_some]
      refine Option.filter_some_neg (decide_eq_false ?_)
      intro phase
      split at phase <;> cases phase

/-- A loop that is not starting any more has reported. -/
theorem Becomes.started (becomes : p.Becomes p' x i l l') (now : Int64)
    (found : p.loops.get? i = some l) (starting : l.phase = .starting) (goes : l'.phase ≠ .starting) :
    p.written? now x = notes? i l (some (.healthy now)) := by
  cases becomes with
  | stays => exact absurd starting goes
  | told _ => exact absurd starting goes
  | moves moves _ =>
    cases moves with
    | starts => rw [written?, inPhase?_of_found found starting, Option.bind_some]
    | asks waiting _ | gives_up waiting _ | obeys waiting _ => cases starting.symm.trans waiting
    | answers querying => cases starting.symm.trans querying

/-- A loop that can run ends only while it waits, when its collector is not the registered one or
when it has been told. Then it leaves no entry behind. -/
theorem Becomes.ended (becomes : p.Becomes p' x i l l') (now : Int64)
    (found : p.loops.get? i = some l) (lasting : l.ticker.period.millis ≠ 0)
    (running : l.phase ≠ .ended) (ended : l'.phase = .ended) :
    x.replaces? = none ∧ p.written? now x = p.leaves? i l ∧
      (p.registered.find? l.key ≠ some l.collector ∨ l.signalled = true) := by
  cases becomes with
  | stays => exact absurd ended running
  | told _ => exact absurd ended running
  | moves moves _ =>
    cases moves with
    | starts =>
      dsimp only at ended
      rw [if_neg lasting] at ended
      cases ended
    | asks | answers => cases ended
    | gives_up waiting unregistered =>
      refine ⟨rfl, ?_, .inl unregistered⟩
      rw [written?, inPhase?_of_found found waiting, Option.bind_some]
    | obeys waiting signalled =>
      refine ⟨rfl, ?_, .inr signalled⟩
      rw [written?, inPhase?_of_found found waiting, Option.bind_some, if_pos signalled]

/-- A loop that a turn does not move is where it was. -/
theorem Becomes.phase_eq (becomes : p.Becomes p' x i l l')
    (rests : ∀ phase, ¬ p.Moves l i x phase) : l'.phase = l.phase := by
  cases becomes with
  | stays | told => rfl
  | moves moves _ => exact absurd moves (rests _)

/-- A loop keeps its job. -/
theorem Becomes.job (becomes : p.Becomes p' x i l l') : l'.collector = l.collector ∧
    l'.key = l.key ∧ l'.reports = l.reports ∧ l'.ticker.period = l.ticker.period := by
  cases becomes with
  | stays | told => exact ⟨rfl, rfl, rfl, rfl⟩
  | moves _ period_eq => exact ⟨rfl, rfl, rfl, period_eq⟩

/-- A loop is told only in a turn that is meant for this, or when it is not named any more. -/
theorem Becomes.signalled (becomes : p.Becomes p' x i l l') (untold : l.signalled = false)
    (told : l'.signalled = true) :
    x.halts = true ∨ ∃ key, p.stops.find? key = some i ∧ p'.stops.find? key ≠ some i := by
  cases becomes with
  | stays => cases untold.symm.trans told
  | told reason => exact reason
  | moves => cases untold.symm.trans told

end Rota

namespace Controller

/-- What is written in a turn at a moment. -/
def writing? (c : Controller) (x : Moment × Turn) : Option Writing :=
  c.rota.written? ({ c with now := x.1 } : Controller).seconds x.2

theorem rota_turn (c : Controller) (x : Moment × Turn) :
    c.rota.Effect ({ c with now := x.1 } : Controller).seconds x.2 (c.turn x).1.rota :=
  rota_takes { c with now := x.1, outbox := [] } x.2

/-- What is known under a name once a loop has written something, or nothing. -/
def known (name : String) (before : Option ComponentHealth) :
    Option Writing → Option ComponentHealth
  | none => before
  | some w => if collectorComponent w.key = name then w.entry else before

/-- Under a name that is not one of the workload itself only what a loop writes changes. -/
theorem find?_components_turn (c : Controller) (x : Moment × Turn) {name : String}
    (other : name ∉ c.workload.ownComponents) :
    (c.turn x).1.health.components.find? name =
      known name (c.health.components.find? name) (c.writing? x) := by
  have hown : (c.turn x).1.workload.ownComponents = c.workload.ownComponents :=
    (c.rota_turn x).own_eq
  have hentry := congrFun (c.rota_turn x).shown?_eq name
  rw [shown?_rota, hown, if_neg other] at hentry
  refine hentry.trans ?_
  rw [writing?]
  cases c.rota.written? ({ c with now := x.1 } : Controller).seconds x.2 with
  | none => rw [Rota.write, shown?_rota, if_neg other, known]
  | some w =>
    rw [Rota.write, Rota.report, known]
    dsimp only
    rw [Function.update_apply, shown?_rota, if_neg other]
    simp only [eq_comm]

end Controller

end PredictiveScaling
