import PredictiveScaling.Fault
import Mathlib.Data.List.Basic
import Mathlib.Data.List.Count
import Mathlib.Logic.Function.Basic

/-!
# The pace of trainings

What rounds note about the trainings of one predictor makes a log. A training is attempted where it
is due and only there, and what goes out counts from then on. So any two that have gone out are an
interval apart, and one that failed is tried again (`Pace.Keeps.paced`). At the desk where the
rounds pass, such a log is kept step by step (`Desk.Accounts.step`).
-/
namespace PredictiveScaling

/-- What a round has noted about the training of a predictor. -/
inductive TrainingNote where
  /-- The round has come to the predictor and did not call for the training. -/
  | spared
  /-- The round has come to the predictor and called for the training. Without an answer the request
  is on its way. -/
  | called (answer : Option (Except PredictError Unit))
  /-- A request that was on its way went out, or did not. -/
  | answered (answer : Except PredictError Unit)

namespace TrainingNote

def answer? : TrainingNote → Option (Except PredictError Unit)
  | .spared => none
  | .called answer => answer
  | .answered answer => some answer

def isVisit : TrainingNote → Bool
  | .spared | .called _ => true
  | .answered _ => false

def isAttempt : TrainingNote → Bool
  | .spared => false
  | .called _ | .answered _ => true

variable {n : TrainingNote}

theorem isAttempt_of_answer? {answer : Except PredictError Unit} (h : n.answer? = some answer) :
    n.isAttempt = true := by
  cases n with
  | spared => cases h
  | _ => rfl

end TrainingNote

structure TrainingEntry where
  round : Nat
  key : String
  /-- When, on the steady clock. -/
  time : Nat
  note : TrainingNote

/-- When a training went out, if it did. -/
def TrainingEntry.recorded? (x : TrainingEntry) : Option Nat :=
  match x.note.answer? with
  | some (.ok ()) => some x.time
  | _ => none

theorem TrainingEntry.answer?_of_recorded? (x : TrainingEntry) {t : Nat}
    (h : x.recorded? = some t) : x.note.answer? = some (.ok ()) := by
  rw [recorded?] at h
  split at h
  · assumption
  · cases h

/-- When the last training went out. -/
def lastRecorded (first : Option Nat) (l : List TrainingEntry) : Option Nat :=
  l.foldl (fun last x => x.recorded?.or last) first

/-- How often a round has come to the predictor. -/
def visitCount (round : Nat) (l : List TrainingEntry) : Nat :=
  l.countP fun x => x.round = round ∧ x.note.isVisit = true

/-- Whether a model is to be trained, and how often at most. -/
structure Pace where
  needed : Bool
  interval : Nat

namespace Pace

def Due (p : Pace) (last : Option Nat) (now : Nat) : Prop :=
  p.needed = true ∧ ∀ t ∈ last, p.interval ≤ now - t

/-- What is due is attempted, and nothing else. -/
def Keeps (p : Pace) : Option Nat → List TrainingEntry → Prop
  | _, [] => True
  | last, x :: l =>
    (x.note.isAttempt = true ↔ p.Due last x.time) ∧ p.Keeps (x.recorded?.or last) l

variable {p : Pace} {first last : Option Nat} {l l' : List TrainingEntry} {x : TrainingEntry}
  {now later : Nat}

/-! ## Logs -/

theorem Due.mono (h : p.Due last now) (le : now ≤ later) : p.Due last later :=
  ⟨h.1, fun t mem => Nat.le_trans (h.2 t mem) (Nat.sub_le_sub_right le t)⟩

theorem lastRecorded_append (first : Option Nat) (l l' : List TrainingEntry) :
    lastRecorded first (l ++ l') = lastRecorded (lastRecorded first l) l' :=
  List.foldl_append ..

theorem lastRecorded_of_forall_none (h : ∀ x ∈ l, x.recorded? = none) :
    lastRecorded first l = first := by
  induction l generalizing first with
  | nil => rfl
  | cons x l ih =>
    rw [List.forall_mem_cons] at h
    rw [lastRecorded, List.foldl_cons, h.1, Option.none_or]
    exact ih h.2

theorem keeps_append : p.Keeps first (l ++ l') ↔
    p.Keeps first l ∧ p.Keeps (lastRecorded first l) l' := by
  induction l generalizing first with
  | nil => exact (and_iff_right trivial).symm
  | cons x l ih =>
    rw [List.cons_append, Keeps, Keeps, ih, and_assoc]
    rfl

theorem isAttempt_of_recorded? {t : Nat} (h : x.recorded? = some t) :
    x.note.isAttempt = true ∧ t = x.time := by
  have answer := x.answer?_of_recorded? h
  refine ⟨TrainingNote.isAttempt_of_answer? answer, ?_⟩
  rw [TrainingEntry.recorded?, answer] at h
  exact (Option.some.inj h).symm

/-- Whatever goes out in order goes out an interval apart. -/
theorem Keeps.apart (h : p.Keeps first l) (order : l.Pairwise fun x y => x.time ≤ y.time)
    (since : ∀ t ∈ first, ∀ x ∈ l, t ≤ x.time) :
    (first.toList ++ l.filterMap TrainingEntry.recorded?).Pairwise fun s t =>
      s + p.interval ≤ t := by
  induction l generalizing first with
  | nil => cases first <;> simp
  | cons x l ih =>
    obtain ⟨attempt_iff, rest⟩ := h
    rw [List.pairwise_cons] at order
    cases recorded : x.recorded? with
    | none =>
      rw [recorded, Option.none_or] at rest
      rw [List.filterMap_cons_none recorded]
      exact ih rest order.2 fun t mem y hy => since t mem y (List.mem_cons_of_mem _ hy)
    | some t =>
      obtain ⟨attempt, rfl⟩ := isAttempt_of_recorded? recorded
      rw [recorded, Option.some_or] at rest
      rw [List.filterMap_cons_some recorded]
      have after := ih rest order.2 fun t mem y hy => by
        obtain rfl := Option.some.inj mem
        exact order.1 y hy
      cases first with
      | none => exact after
      | some s =>
        have gap : s + p.interval ≤ x.time := by
          have due := (attempt_iff.1 attempt).2 s rfl
          have le := since s rfl x List.mem_cons_self
          omega
        rw [Option.toList_some, List.singleton_append] at after ⊢
        refine List.pairwise_cons.2 ⟨List.forall_mem_cons.2 ⟨gap, fun t mem => ?_⟩, after⟩
        have next := List.rel_of_pairwise_cons after mem
        omega

end Pace

/-! ## The desk -/

/-- Where a round is with regard to a predictor. -/
inductive Place where
  /-- There is no such round yet. -/
  | unborn
  | coming
  | sending
  | past
  /-- The round was given up. -/
  | dropped
deriving DecidableEq

/-- Where a round is that has noted something in its visit. -/
def TrainingNote.place : TrainingNote → Place
  | .called none => .sending
  | _ => .past

theorem TrainingNote.place_cases (n : TrainingNote) : n.place = .sending ∨ n.place = .past := by
  cases n with
  | called answer =>
    cases answer with
    | none => exact .inl rfl
    | some _ => exact .inr rfl
  | _ => exact .inr rfl

/-- A round that is sending has made an attempt, and nothing has gone out. -/
theorem TrainingEntry.of_place_eq_sending (x : TrainingEntry) (h : x.note.place = .sending) :
    x.note.isAttempt = true ∧ x.recorded? = none := by
  rw [recorded?]
  cases hnote : x.note with
  | called answer =>
    cases answer with
    | none => exact ⟨rfl, rfl⟩
    | some _ => cases (congrArg TrainingNote.place hnote).symm.trans h
  | _ => cases (congrArg TrainingNote.place hnote).symm.trans h

/-- All that matters to the trainings of a predictor. -/
structure Desk where
  /-- When the last training went out. -/
  last : Option Nat
  /-- Where each round is. -/
  place : Nat → Place

/-- A round comes to the predictor, or has to wait before it. -/
inductive Reach (p : Pace) (round : Nat) (key : String) (time : Nat) (last : Option Nat)
    (free : Prop) : List TrainingEntry → Place → Prop where
  | waits : Reach p round key time last free [] .coming
  | comes {note : TrainingNote} (visit : note.isVisit = true)
      (attempt_iff : note.isAttempt = true ↔ p.Due last time)
      (free_of_place : note.place = .sending → free)
      (free_of_recorded : note.answer? = some (.ok ()) → free) :
      Reach p round key time last free [⟨round, key, time, note⟩] note.place

namespace Desk

variable {p : Pace} {key : String} {first : Option Nat} {begun now time : Nat}
  {l es : List TrainingEntry} {d d' : Desk}

/-- What happens at the desk, and what is noted. -/
inductive Step (p : Pace) (key : String) (time : Nat) (d : Desk) :
    List TrainingEntry → Desk → Prop where
  | rests : Step p key time d [] d
  /-- A round is given up. -/
  | leaves (id : Nat) :
      Step p key time d [] { d with place := Function.update d.place id .dropped }
  | visits {id : Nat} {es : List TrainingEntry} {place : Place}
      (ahead : d.place id = .unborn ∨ d.place id = .coming)
      (reach : Reach p id key time d.last (∀ j, d.place j ≠ .sending) es place) :
      Step p key time d es
        ⟨lastRecorded d.last es, Function.update d.place id place⟩
  | answers {id : Nat} (sending : d.place id = .sending) (answer : Except PredictError Unit) :
      Step p key time d [⟨id, key, time, .answered answer⟩]
        ⟨lastRecorded d.last [⟨id, key, time, .answered answer⟩],
          Function.update d.place id .past⟩

end Desk

namespace Pace

variable {p : Pace} {first last : Option Nat} {now time : Nat} {l : List TrainingEntry}
  {x : TrainingEntry}

/-- A log that is kept in order, up to a moment. -/
structure Logs (p : Pace) (first : Option Nat) (now : Nat) (l : List TrainingEntry)
    (last : Option Nat) : Prop where
  keeps : p.Keeps first l
  order : l.Pairwise fun x y => x.time ≤ y.time
  le_now : ∀ x ∈ l, x.time ≤ now
  since : ∀ t ∈ first, t ≤ now ∧ ∀ x ∈ l, t ≤ x.time
  last_eq : last = lastRecorded first l

theorem Logs.start (before : ∀ t ∈ first, t ≤ now) : p.Logs first now [] first :=
  ⟨trivial, .nil, nofun, fun t mem => ⟨before t mem, nofun⟩, rfl⟩

theorem Logs.wait (h : p.Logs first now l last) (le : now ≤ time) : p.Logs first time l last where
  keeps := h.keeps
  order := h.order
  le_now x mem := Nat.le_trans (h.le_now x mem) le
  since t mem := ⟨Nat.le_trans (h.since t mem).1 le, (h.since t mem).2⟩
  last_eq := h.last_eq

theorem Logs.note (h : p.Logs first now l last) (le : now ≤ x.time)
    (attempt_iff : x.note.isAttempt = true ↔ p.Due last x.time) :
    p.Logs first x.time (l ++ [x]) (lastRecorded last [x]) where
  keeps := by
    rw [keeps_append, ← h.last_eq]
    exact ⟨h.keeps, attempt_iff, trivial⟩
  order := by
    refine List.pairwise_append.2 ⟨h.order, List.pairwise_singleton _ _, fun y mem z hz => ?_⟩
    obtain rfl := List.mem_singleton.1 hz
    exact Nat.le_trans (h.le_now y mem) le
  le_now y mem := by
    rcases List.mem_append.1 mem with mem | mem
    · exact Nat.le_trans (h.le_now y mem) le
    · exact Nat.le_of_eq (congrArg _ (List.mem_singleton.1 mem))
  since t mem := by
    have before := Nat.le_trans (h.since t mem).1 le
    refine ⟨before, fun y hy => ?_⟩
    rcases List.mem_append.1 hy with hy | hy
    · exact (h.since t mem).2 y hy
    · exact List.mem_singleton.1 hy ▸ before
  last_eq := by rw [lastRecorded_append, ← h.last_eq]

end Pace

namespace Desk

variable {p : Pace} {key : String} {first : Option Nat} {begun now time : Nat}
  {l es : List TrainingEntry} {d d' : Desk}

/-! ### Visits -/

/-- What the place of a round tells about how often it has come to the predictor. -/
structure Tally (begun id : Nat) (place : Place) (n : Nat) : Prop where
  le_one : n ≤ 1
  eq_zero : place = .unborn ∨ place = .coming → n = 0
  eq_one : begun ≤ id → place = .sending ∨ place = .past → n = 1

variable {id n : Nat} {place : Place} {last : Option Nat}

theorem tally_coming : Tally begun id .coming 0 := ⟨Nat.zero_le _, fun _ => rfl, by simp⟩

theorem tally_of_visit (visits : place = .sending ∨ place = .past) : Tally begun id place 1 := by
  refine ⟨Nat.le_refl _, ?_, fun _ _ => rfl⟩
  rcases visits with rfl | rfl <;> simp

theorem Tally.leave (h : Tally begun id place n) : Tally begun id .dropped n :=
  ⟨h.le_one, by simp, by simp⟩

theorem Tally.answer (h : Tally begun id .sending n) : Tally begun id .past n :=
  ⟨h.le_one, by simp, fun le _ => h.eq_one le (.inl rfl)⟩

/-! ### Requests on their way -/

/-- At most one request is on its way, and since it was sent nothing has gone out. -/
structure Sends (p : Pace) (last : Option Nat) (place : Nat → Place) (now : Nat) : Prop where
  due : ∀ id, place id = .sending → p.Due last now
  unique : ∀ i j, place i = .sending → place j = .sending → i = j

variable {places : Nat → Place}

theorem sends_of_none (none : ∀ j, places j ≠ .sending) : Sends p last places now :=
  ⟨fun j sending => absurd sending (none j), fun i _ hi => absurd hi (none i)⟩

theorem sending_of_update {i : Nat} (h : Function.update places id place i = .sending) :
    i = id ∧ place = .sending ∨ places i = .sending := by
  rw [Function.update_apply] at h
  split at h
  · next same => exact .inl ⟨same, h⟩
  · exact .inr h

/-- A round goes where nothing is sent. -/
theorem Sends.rest (h : Sends p last places now) (quiet : place ≠ .sending) :
    Sends p last (Function.update places id place) now := by
  have before : ∀ {j}, Function.update places id place j = .sending → places j = .sending :=
    fun sending => (sending_of_update sending).resolve_left fun at_ => quiet at_.2
  exact ⟨fun j sending => h.due j (before sending),
    fun i j hi hj => h.unique i j (before hi) (before hj)⟩

/-- A round begins to send while nobody does. -/
theorem sends_of_free (free : ∀ j, places j ≠ .sending) (due : p.Due last now) :
    Sends p last (Function.update places id place) now := by
  have one : ∀ {j}, Function.update places id place j = .sending → j = id := fun sending =>
    ((sending_of_update sending).resolve_right (free _)).1
  exact ⟨fun _ _ => due, fun i j hi hj => (one hi).trans (one hj).symm⟩

/-- A round that has come to the predictor notes something. -/
theorem Sends.note {x : TrainingEntry} (h : Sends p last places x.time)
    (attempt_iff : x.note.isAttempt = true ↔ p.Due last x.time)
    (free_of_place : x.note.place = .sending → ∀ j, places j ≠ .sending)
    (free_of_recorded : x.note.answer? = some (.ok ()) → ∀ j, places j ≠ .sending) :
    Sends p (lastRecorded last [x]) (Function.update places id x.note.place) x.time := by
  rcases x.note.place_cases with sends | past
  · obtain ⟨attempt, unrecorded⟩ := x.of_place_eq_sending sends
    rw [Pace.lastRecorded_of_forall_none (by simpa using unrecorded)]
    exact sends_of_free (free_of_place sends) (attempt_iff.1 attempt)
  · rw [past]
    cases recorded : x.recorded? with
    | none =>
      rw [Pace.lastRecorded_of_forall_none (by simpa using recorded)]
      exact h.rest (by decide)
    | some t =>
      have free := free_of_recorded (x.answer?_of_recorded? recorded)
      refine sends_of_none fun j sending => ?_
      rcases sending_of_update sending with ⟨-, sends⟩ | before
      · cases sends
      · exact free j before

/-- Once the request is answered, nothing is on its way. -/
theorem Sends.answer (h : Sends p last places now) (sending : places id = .sending) (j : Nat) :
    Function.update places id .past j ≠ .sending := by
  intro sends
  rcases sending_of_update sends with ⟨-, past⟩ | before
  · cases past
  · rw [h.unique j id before sending, Function.update_self] at sends
    cases sends

/-! ### Accounts -/

/-- How the desk goes with the log. -/
structure Accounts (p : Pace) (first : Option Nat) (begun now : Nat) (l : List TrainingEntry)
    (d : Desk) : Prop where
  logs : p.Logs first now l d.last
  sends : Sends p d.last d.place now
  tally : ∀ id, Tally begun id (d.place id) (visitCount id l)

theorem visitCount_append_singleton (id : Nat) (l : List TrainingEntry) (x : TrainingEntry) :
    visitCount id (l ++ [x]) =
      visitCount id l + if x.round = id ∧ x.note.isVisit = true then 1 else 0 := by
  rw [visitCount, List.countP_append, List.countP_singleton, ← visitCount]
  simp only [decide_eq_true_eq]

namespace Accounts

theorem wait (h : d.Accounts p first begun now l) (le : now ≤ time) :
    d.Accounts p first begun time l where
  logs := h.logs.wait le
  sends := ⟨fun id sending => (h.sends.due id sending).mono le, h.sends.unique⟩
  tally := h.tally

/-- A round goes somewhere else. -/
theorem tally_update {l' : List TrainingEntry} (h : d.Accounts p first begun now l)
    (moved : Tally begun id place (visitCount id l'))
    (others : ∀ j ≠ id, visitCount j l' = visitCount j l) (j : Nat) :
    Tally begun j (Function.update d.place id place j) (visitCount j l') := by
  by_cases same : j = id
  · subst same
    rw [Function.update_self]
    exact moved
  · rw [Function.update_of_ne same, others j same]
    exact h.tally j

theorem step (h : d.Accounts p first begun now l) (le : now ≤ time)
    (step : d.Step p key time es d') : d'.Accounts p first begun time (l ++ es) := by
  have h := h.wait le
  cases step with
  | rests => rwa [List.append_nil]
  | leaves id =>
    rw [List.append_nil]
    exact ⟨h.logs, h.sends.rest (by decide), h.tally_update (h.tally id).leave fun _ _ => rfl⟩
  | @visits id es place ahead reach =>
    have unseen : visitCount id l = 0 := (h.tally id).eq_zero ahead
    cases reach with
    | waits =>
      rw [List.append_nil]
      refine ⟨h.logs, h.sends.rest (by decide), h.tally_update ?_ fun _ _ => rfl⟩
      rw [unseen]
      exact tally_coming
    | @comes note visit attempt_iff free_of_place free_of_recorded =>
      let x : TrainingEntry := ⟨id, key, time, note⟩
      refine ⟨h.logs.note (x := x) (Nat.le_refl _) attempt_iff,
        h.sends.note (x := x) attempt_iff free_of_place free_of_recorded,
        h.tally_update ?_ fun j other => ?_⟩
      · rw [visitCount_append_singleton, if_pos ⟨rfl, visit⟩, unseen]
        exact tally_of_visit note.place_cases
      · rw [visitCount_append_singleton, if_neg fun same => other same.1.symm, Nat.add_zero]
  | @answers id sending answer =>
    let x : TrainingEntry := ⟨id, key, time, .answered answer⟩
    have due := h.sends.due id sending
    refine ⟨h.logs.note (x := x) (Nat.le_refl _) (iff_of_true rfl due),
      sends_of_none (h.sends.answer sending), h.tally_update ?_ fun j other => ?_⟩
    · have before := h.tally id
      rw [sending] at before
      rw [visitCount_append_singleton, if_neg (by simp [TrainingNote.isVisit]), Nat.add_zero]
      exact before.answer
    · rw [visitCount_append_singleton, if_neg fun same => other same.1.symm, Nat.add_zero]

end Accounts

end Desk

end PredictiveScaling
