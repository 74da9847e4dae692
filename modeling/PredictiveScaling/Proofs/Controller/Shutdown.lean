import PredictiveScaling.Proofs.Controller.DutyRefinement
import PredictiveScaling.Proofs.Evaluation.Protection

/-!
# Shutting down

A loop that takes notice of the signal ends, also in the middle of a round, and the round is given
up with everything that it waits for. From then on no count is read or set in its name and no round
begins, whatever else happens. At most one count that it has set is still to be answered
(`Controller.shutdown_silences`).
-/
namespace PredictiveScaling.Controller

/-- The loop that a round belongs to. -/
def owner? (c : Controller) (id : Nat) : Option Nat :=
  (c.evaluations.get? id).bind Evaluation.owner

/-- The counts that have been set and not been answered after some moves, if these were before. -/
def unansweredSets (c : Controller) (sets : List (Nat × Int32)) :
    List (Moment × Move) → List (Nat × Int32)
  | [] => sets
  | x :: xs => (c.move x).1.unansweredSets
      (sets.filter (fun s => x.2.answered? ≠ some s.1) ++ (c.move x).2.filterMap Call.set?) xs

variable {c c' : Controller} {l : Nat} {sets : List (Nat × Int32)}

theorem owner_duty (c : Controller) (id : Nat) : c.duty.owner id = c.owner? id := by
  rw [owner?, Duty.owner, duty]
  dsimp only
  rw [Option.bind_map]
  rfl

theorem sets_duty (c : Controller) : c.duty.sets = c.outbox.filterMap Call.set? := by
  rw [Duty.sets, duty, List.filterMap_filterMap]
  refine congrArg (List.filterMap · c.outbox) (funext fun x => ?_)
  cases x <;> rfl

/-! ## Runs -/

/-- The rounds are in order, and these counts have been set and not been answered. -/
structure Serves (c : Controller) (sets : List (Nat × Int32)) : Prop where
  sound : c.duty.Sound
  collected : c.Collected
  pends : c.duty.Pends sets

theorem Fresh.serves (h : c.Fresh) : c.Serves [] := by
  cases h with
  | begins => exact ⟨⟨nofun, nofun, nofun, nofun⟩, nofun, ⟨.nil, nofun⟩⟩

theorem Serves.asOf (h : c.Serves sets) (now : Moment) : (c.asOf now).Serves sets :=
  ⟨⟨h.sound.1, h.sound.2, h.sound.3, h.sound.4⟩, h.collected,
    ⟨h.pends.nodup, h.pends.exists_waiting⟩⟩

theorem step_move (h : c.Serves sets) (x : Moment × Move) :
    (c.asOf x.1).duty.Step x.2.answered? ((c.asOf x.1).makes x.2).duty :=
  step_makes (h.asOf x.1).sound (h.asOf x.1).collected x.2

theorem Serves.move (h : c.Serves sets) (x : Moment × Move) :
    (c.move x).1.Serves
      (sets.filter (fun s => x.2.answered? ≠ some s.1) ++ (c.move x).2.filterMap Call.set?) := by
  have step := step_move h x
  have before := h.asOf x.1
  have after := before.sound.step step
  have still : (c.asOf x.1).duty.Pends
      (sets.filter (fun s => x.2.answered? ≠ some s.1) ++ (c.asOf x.1).duty.sets) := by
    rw [sets_duty]
    exact before.pends.sublist ((List.append_nil _).symm ▸ List.filter_sublist)
  have pends := step.pends still fun s mem => by
    rw [sets_duty] at mem
    rcases List.mem_append.1 mem with mem | mem
    · exact of_decide_eq_true (List.mem_filter.1 mem).2
    · cases mem
  rw [sets_duty] at pends
  exact ⟨⟨after.1, after.2, after.3, after.4⟩, before.collected.makes x.2,
    ⟨pends.nodup, pends.exists_waiting⟩⟩

theorem serves_moves (h : c.Serves sets) (xs : List (Moment × Move)) :
    (c.moves xs).1.Serves (c.unansweredSets sets xs) := by
  induction xs generalizing c sets with
  | nil => exact h
  | cons x xs ih => exact ih (h.move x)

theorem unansweredSets_append (c : Controller) (sets : List (Nat × Int32))
    (xs ys : List (Moment × Move)) : c.unansweredSets sets (xs ++ ys) =
      (c.moves xs).1.unansweredSets (c.unansweredSets sets xs) ys := by
  induction xs generalizing c sets with
  | nil => rfl
  | cons x xs ih => exact ih _ _

/-! ## A loop that has ended -/

/-- A loop that has ended stays so. It has no other rounds than before, and no count is read or set
for one of them. -/
structure Silenced (c : Controller) (l : Nat) (r : Controller × List Call) : Prop where
  ended : r.1.loopPhase? l = some .ended
  owner_iff : ∀ id, r.1.owner? id = some l ↔ c.owner? id = some l
  silent : ∀ x ∈ r.2, ∀ id n, x.scaling? = some (id, n) → r.1.owner? id ≠ some l

theorem silenced_move (h : c.Serves sets) (ended : c.loopPhase? l = some .ended)
    (x : Moment × Move) : c.Silenced l (c.move x) := by
  have silent := (step_move h x).silent (h.asOf x.1).sound ended
  refine ⟨silent.ended, fun id => ?_, fun y mem id n scaling => ?_⟩
  · have same := silent.owner_iff id
    rw [owner_duty, owner_duty] at same
    exact same
  · rcases silent.calls (id, n) (List.mem_filterMap.2 ⟨y, mem, scaling⟩) with before | other
    · cases before
    · rw [owner_duty] at other
      exact other

theorem silenced_moves (h : c.Serves sets) (ended : c.loopPhase? l = some .ended)
    (xs : List (Moment × Move)) : c.Silenced l (c.moves xs) := by
  induction xs generalizing c sets with
  | nil => exact ⟨ended, fun _ => .rfl, nofun⟩
  | cons x xs ih =>
    have first := silenced_move h ended x
    have rest := ih (h.move x) first.ended
    refine ⟨rest.ended, fun id => (rest.owner_iff id).trans (first.owner_iff id), ?_⟩
    intro y mem id n scaling
    rcases List.mem_append.1 mem with mem | mem
    · exact fun own => first.silent y mem id n scaling ((rest.owner_iff id).1 own)
    · exact rest.silent y mem id n scaling

/-- No count is set any more. -/
theorem sublist_unansweredSets (h : c.Serves sets) (ended : c.loopPhase? l = some .ended)
    (xs : List (Moment × Move)) :
    ((c.unansweredSets sets xs).filter fun s => c.owner? s.1 = some l).Sublist
      (sets.filter fun s => c.owner? s.1 = some l) := by
  induction xs generalizing c sets with
  | nil => exact .refl _
  | cons x xs ih =>
    have silenced := silenced_move h ended x
    have rest := ih (h.move x) silenced.ended
    simp only [silenced.owner_iff] at rest
    refine rest.trans ?_
    have none_set : ((c.move x).2.filterMap Call.set?).filter (fun s => c.owner? s.1 = some l) =
        [] := by
      refine List.filter_eq_nil_iff.2 fun s mem own => ?_
      obtain ⟨y, mem, set⟩ := List.mem_filterMap.1 mem
      have scaling : y.scaling? = some (s.1, some s.2) := by
        cases y <;> cases set
        rfl
      exact silenced.silent y mem _ _ scaling
        ((silenced.owner_iff s.1).2 (of_decide_eq_true own))
    rw [List.filter_append, none_set, List.append_nil]
    exact List.filter_sublist.filter _

/-- Taking notice of the signal ends a loop, whatever it is at. -/
theorem loopPhase?_endEvaluationLoop {x : EvaluationLoop}
    (found : c.evaluationLoops.get? l = some x) :
    (c.endEvaluationLoop l x).loopPhase? l = some .ended := by
  have abandons : ∀ n d, (c.abandonDispatch n d).evaluationLoops = c.evaluationLoops := by
    intro n d
    rw [abandonDispatch]
    split <;> rfl
  have gives : ∀ id, (c.abandonEvaluation id).evaluationLoops = c.evaluationLoops := by
    intro id
    rw [abandonEvaluation]
    split
    · rfl
    · dsimp only
      split
      · exact abandons _ _
      · rfl
  have ends : ∀ {c'}, Controller.evaluationLoops c' = c.evaluationLoops →
      (c'.setEvaluationLoop l { x with phase := .ended }).loopPhase? l = some .ended := by
    intro c' same
    change ((c'.evaluationLoops.modify l fun _ => _).get? l).map _ = _
    rw [Arena.get?_modify_self, same, found]
    rfl
  rw [endEvaluationLoop.eq_def]
  dsimp only
  split
  · exact ends (gives _)
  · exact ends rfl

/-- Whatever happens to a controller and its loops: one that has been told to shut down ends when it
takes notice of that, even in the middle of a round. After it has ended it stays so, its rounds are
over and no other ones begin, and no count is read or set for any of them, neither for the goal nor
for a forecast. At most one count that was set for it before is still to be answered. -/
theorem shutdown_silences {start : Controller} (fresh : start.Fresh) (xs ys : List (Moment × Move))
    {l : Nat} {loop : EvaluationLoop}
    (found : (start.moves xs).1.evaluationLoops.get? l = some loop) :
    let c := (start.moves xs).1
    let r := c.moves ys
    let sets := fun moves =>
      (start.unansweredSets [] moves).filter fun s => r.1.owner? s.1 = some l
    (loop.signalled = true → loop.phase ≠ .starting → ∀ now,
      (c.move (now, .turn (.event (.evaluationLoopSignalled l)))).1.loopPhase? l = some .ended) ∧
    (loop.phase = .ended →
      r.1.loopPhase? l = some .ended ∧
      (∀ id, r.1.owner? id = some l → id < c.evaluations.size ∧
        ∀ e, r.1.evaluations.get? id = some e → e.standing.isOver = true) ∧
      (∀ x ∈ r.2, ∀ id n, x.scaling? = some (id, n) → r.1.owner? id ≠ some l) ∧
      (sets xs).length ≤ 1 ∧ (sets (xs ++ ys)).Sublist (sets xs)) := by
  intro c r sets
  refine ⟨fun signalled started now => ?_, fun ended => ?_⟩
  · have found : (c.asOf now).evaluationLoops.get? l = some loop := found
    have notices : (c.asOf now).makes (.turn (.event (.evaluationLoopSignalled l))) =
        (c.asOf now).endEvaluationLoop l loop := by
      rw [makes, takes, handle, atEvaluationLoop, found]
      exact if_pos ⟨signalled, started⟩
    change ((c.asOf now).makes _).loopPhase? l = _
    rw [notices]
    exact loopPhase?_endEvaluationLoop found
  · have serves : c.Serves (start.unansweredSets [] xs) := serves_moves fresh.serves xs
    have ended : c.loopPhase? l = some .ended :=
      (congrArg (Option.map EvaluationLoop.phase) found).trans (congrArg some ended)
    have silenced := silenced_moves serves ended ys
    have after := serves_moves serves ys
    have same : ∀ moves, sets moves =
        (start.unansweredSets [] moves).filter fun s => c.owner? s.1 = some l := by
      intro moves
      simp only [sets, r, silenced.owner_iff]
    refine ⟨silenced.ended, fun id own => ⟨?_, fun e hget => ?_⟩, silenced.silent, ?_, ?_⟩
    · have before := (silenced.owner_iff id).1 own
      obtain ⟨e, hget, -⟩ := Option.bind_eq_some_iff.1 before
      exact Arena.lt_size_of_get? hget
    · by_contra active
      have hround := round_of_get? hget
      have howner : e.owner = some l := by
        rw [owner?, hget] at own
        exact own
      rw [howner] at hround
      have evaluating := after.sound.evaluating_of_active id l _ hround
        (Bool.eq_false_iff.2 active)
      cases silenced.ended.symm.trans evaluating
    · have atMost := serves.sound.length_le_one serves.pends l
      simp only [owner_duty] at atMost
      rwa [same]
    · rw [same, same, unansweredSets_append]
      exact sublist_unansweredSets serves ended ys

/-- Two replicas are there and four are being set when the process shuts down. -/
def toldWhileSetting : List (Moment × Move) :=
  (⟨0, 0⟩, .turn (.install ⟨"cpu", "", "q", 1.0, 100, .none⟩ [Tick.pairSmoothing] .default)) ::
    (⟨0, 0⟩, .spawn) ::
    ([.event (.collectionStarts 0), .event (.collectionDue 0),
      .event (.queryEnds 0 (some (.ok ([2, 1, 2, 1].map fun x => ⟨x, 0⟩)))),
      .event (.evaluationLoopStarts 0), .event (.evaluationLoopDue 0),
      .event (.predictionStarts 0 0), .event (.predictionCount 0 0 (.ok 2)),
      .event (.goalCount 0 (.ok 2)), .shutDown].map fun x => (⟨0, 0⟩, .turn x))

/-- The loop takes notice of that. -/
def noticed : Moment × Move := (⟨0, 0⟩, .turn (.event (.evaluationLoopSignalled 0)))

/-- Its ticker is due and counts come in, and then a round is begun that does not belong to it. -/
def afterwards : List (Moment × Move) :=
  [.event (.evaluationLoopDue 0), .event (.predictionCount 0 0 (.ok 2)),
    .event (.goalCount 0 (.ok 2)), .evaluate, .event (.predictionStarts 1 0)].map
      fun x => (⟨30000, 30000⟩, .turn x)

/-- The loop ends in the middle of its round. Only the other round asks for a count from then on,
and only the count of four is still to be answered. -/
theorem shutdown_silences_while_setting :
    let start := new "controller" ⟨"default", "web", "deployment"⟩
      ⟨1, 20, .steady, .max, .selectMax⟩ .default
    let c := (start.moves (toldWhileSetting ++ [noticed])).1
    let r := c.moves afterwards
    let sets := fun moves =>
      (start.unansweredSets [] moves).filter fun s => r.1.owner? s.1 = some 0
    (start.moves toldWhileSetting).1.loopPhase? 0 = some (.evaluating 0) ∧
      c.loopPhase? 0 = some .ended ∧ r.1.loopPhase? 0 = some .ended ∧
      r.2.filterMap Call.scaling? = [(1, none)] ∧ r.1.owner? 1 ≠ some 0 ∧
      sets (toldWhileSetting ++ [noticed]) = [(0, 4)] ∧
      (sets (toldWhileSetting ++ [noticed] ++ afterwards)).Sublist [(0, 4)] := by
  intro start c r sets
  have told : (start.moves toldWhileSetting).1.evaluationLoops.get? 0 =
      some ⟨⟨⟨30000⟩, 30000⟩, true, .evaluating 0⟩ := by decide +kernel
  have fresh : start.Fresh := .begins "controller" ⟨"default", "web", "deployment"⟩
    ⟨1, 20, .steady, .max, .selectMax⟩ .default .empty
  have notices := (shutdown_silences fresh toldWhileSetting [] told).1 rfl nofun ⟨0, 0⟩
  have ended : c.evaluationLoops.get? 0 = some ⟨⟨⟨30000⟩, 30000⟩, true, .ended⟩ := by
    decide +kernel
  obtain ⟨stays, -, silent, -, still⟩ :=
    (shutdown_silences fresh (toldWhileSetting ++ [noticed]) afterwards ended).2 rfl
  have asks : r.2.filterMap Call.scaling? = [(1, none)] := by decide +kernel
  have other : r.1.owner? 1 ≠ some 0 := by
    have mem : (1, none) ∈ r.2.filterMap Call.scaling? := asks ▸ List.mem_singleton_self _
    obtain ⟨x, mem, scaling⟩ := List.mem_filterMap.1 mem
    exact silent x mem 1 none scaling
  have sets_before : sets (toldWhileSetting ++ [noticed]) = [(0, 4)] := by decide +kernel
  refine ⟨by decide +kernel, notices, stays, asks, other, sets_before, ?_⟩
  rw [← sets_before]
  exact still

end PredictiveScaling.Controller
