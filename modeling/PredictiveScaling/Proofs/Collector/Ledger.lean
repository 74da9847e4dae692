import Mathlib.Data.List.Induction
import PredictiveScaling.Controller.Collection

/-!
# What a collector remembers

A ledger keeps everything that a collector was ever given and notes how much of it there was
when samples were last handed out. A collector answers as its ledger does: it holds the newest
samples up to its cap, and hands out those that came in since the last time and are still
there. So no sample is handed out twice, and one that never is was dropped before its turn
(`Collector.answers_as_ledger`).
-/
namespace PredictiveScaling

/-! ## Requests -/

/-- What is asked of a collector. -/
inductive Request where
  | append (xs : List Sample)
  /-- A query has ended, or was given up when its time was over. -/
  | collect (answer : Option (Except SourceError (List Sample)))
  | send
  | window (n : Nat)
  | latest
  | size

/-- What a collector gives back. -/
inductive Reply where
  | appended (count : Nat)
  | collected (result : Option (Except SourceError Nat))
  | sent (xs : List Sample)
  | window (xs : Option (List Sample))
  | latest (x : Option Sample)
  | size (n : Nat)

/-- The samples that a request brings. -/
def Request.brings : Request → List Sample
  | .append xs => xs
  | .collect (some (.ok xs)) => xs
  | _ => []

namespace Collector

/-- A collector meets a request. -/
def serve (c : Collector) : Request → Reply × Collector
  | .append xs => (.appended xs.length, c.append xs)
  | .collect none => (.collected none, c)
  | .collect (some answer) =>
    let (result, c') := c.take answer
    (.collected (some result), c')
  | .send =>
    let (xs, buffer) := c.buffer.send
    (.sent xs, { c with buffer })
  | .window n => (.window (c.buffer.window? n), c)
  | .latest => (.latest c.buffer.latest?, c)
  | .size => (.size c.buffer.size, c)

theorem key_serve (c : Collector) (r : Request) : (c.serve r).2.key = c.key := by
  cases r with
  | collect answer =>
    cases answer with
    | none => rfl
    | some result => cases result <;> rfl
  | _ => rfl

/-- A collector after some requests. -/
def served (c : Collector) (rs : List Request) : Collector :=
  rs.foldl (fun c r => (c.serve r).2) c

end Collector

/-! ## Ledgers -/

/-- Everything that was brought, and how much of it there was at the last send. -/
structure Ledger where
  history : List Sample
  sent : Nat

/-- Of so many samples, those beyond the cap, which are the oldest. -/
def evicted (cap count : Nat) : Nat := if cap = 0 then 0 else count - cap

namespace Ledger

def enter (g : Ledger) : Request → Ledger
  | .send => { g with sent := g.history.length }
  | r => { g with history := g.history ++ r.brings }

/-- The ledger of some requests. -/
def of (rs : List Request) : Ledger := rs.foldl enter ⟨[], 0⟩

/-- The position of the oldest sample that is kept. -/
def oldest (cap : Nat) (g : Ledger) : Nat := evicted cap g.history.length

/-- The position of the oldest sample that is kept and has not been handed out. -/
def next (cap : Nat) (g : Ledger) : Nat := max g.sent (g.oldest cap)

/-- What a request is answered by the ledger. -/
def reply (cap : Nat) (g : Ledger) : Request → Reply
  | .append xs => .appended xs.length
  | .collect answer => .collected (answer.map fun result => result.map List.length)
  | .send => .sent (g.history.drop (g.next cap))
  | .window n => .window <|
    if n ≤ g.history.length - g.oldest cap then some (g.history.drop (g.history.length - n))
    else none
  | .latest => .latest g.history.getLast?
  | .size => .size (g.history.length - g.oldest cap)

variable {g : Ledger} {cap : Nat}

theorem of_append_singleton (rs : List Request) (r : Request) :
    of (rs ++ [r]) = (of rs).enter r := by
  rw [of, List.foldl_append]
  rfl

theorem history_enter (g : Ledger) (r : Request) :
    (g.enter r).history = g.history ++ r.brings := by
  cases r with
  | send => exact (List.append_nil _).symm
  | _ => rfl

/-- The history is made of all that was brought. -/
theorem history_of (rs : List Request) : (of rs).history = rs.flatMap Request.brings := by
  induction rs using List.reverseRecOn with
  | nil => rfl
  | append_singleton rs r ih =>
    rw [of_append_singleton, history_enter, ih, List.flatMap_append, List.flatMap_singleton]

theorem sent_le_sent_enter (h : g.sent ≤ g.history.length) (r : Request) :
    g.sent ≤ (g.enter r).sent ∧ (g.enter r).sent ≤ (g.enter r).history.length := by
  rw [history_enter, List.length_append]
  cases r with
  | send => exact ⟨h, Nat.le_add_right _ _⟩
  | _ => exact ⟨Nat.le_refl _, Nat.le_add_right_of_le h⟩

theorem sent_le_length (rs : List Request) : (of rs).sent ≤ (of rs).history.length := by
  induction rs using List.reverseRecOn with
  | nil => exact Nat.le_refl 0
  | append_singleton rs r ih =>
    rw [of_append_singleton]
    exact (sent_le_sent_enter ih r).2

/-- What was handed out stays so. -/
theorem sent_le_sent_append (rs more : List Request) : (of rs).sent ≤ (of (rs ++ more)).sent := by
  induction more using List.reverseRecOn with
  | nil => exact Nat.le_of_eq (by rw [List.append_nil])
  | append_singleton more r ih =>
    rw [← List.append_assoc, of_append_singleton]
    exact Nat.le_trans ih (sent_le_sent_enter (sent_le_length _) r).1

/-- Everything that was there at a send counts as handed out afterwards. -/
theorem length_le_sent (before after : List Request) :
    (of before).history.length ≤ (of (before ++ .send :: after)).sent := by
  have hsent : (of (before ++ [.send])).sent = (of before).history.length := by
    rw [of_append_singleton]
    rfl
  have hlater := sent_le_sent_append (before ++ [.send]) after
  rwa [hsent, ← List.append_cons] at hlater

/-- A sample that came in before the last send has had its turn at one of them. -/
theorem exists_turn {rs : List Request} {p : Nat} (h : p < (of rs).sent) :
    ∃ before after, rs = before ++ .send :: after ∧ (of before).sent ≤ p ∧
      p < (of before).history.length := by
  induction rs using List.reverseRecOn with
  | nil => exact absurd h (Nat.not_lt_zero p)
  | append_singleton rs r ih =>
    by_cases hearlier : p < (of rs).sent
    · obtain ⟨before, after, rfl, hturn⟩ := ih hearlier
      exact ⟨before, after ++ [r], by rw [List.append_assoc, List.cons_append], hturn⟩
    · rw [of_append_singleton] at h
      cases r with
      | send => exact ⟨rs, [], rfl, Nat.not_lt.1 hearlier, h⟩
      | _ => exact absurd h hearlier

end Ledger

/-! ## Collectors and their ledgers -/

theorem evicted_le (cap count : Nat) : evicted cap count ≤ count := by
  rw [evicted]
  split <;> omega

theorem Buffer.retain_eq_drop {α : Type} (cap : Nat) (l : List α) :
    Buffer.retain cap l = l.drop (evicted cap l.length) := by
  rw [retain, evicted]
  split
  · rw [List.drop_zero]
  · rfl

namespace Collector

/-- The buffer of a collector is what its ledger says. -/
structure Keeps (cap : Nat) (g : Ledger) (c : Collector) : Prop where
  cap_eq : c.buffer.cap = cap
  samples : c.buffer.samples = g.history.drop (g.oldest cap)
  unsent : c.buffer.unsent = g.history.length - g.next cap
  sent_le : g.sent ≤ g.history.length

variable {cap : Nat} {g : Ledger} {c : Collector}

theorem keeps_new (metric : Metric) (cap : Nat) : (new metric cap).Keeps cap (Ledger.of []) :=
  ⟨rfl, (List.drop_nil).symm, (Nat.zero_sub _).symm, Nat.le_refl 0⟩

namespace Keeps

theorem size_eq (h : c.Keeps cap g) : c.buffer.size = g.history.length - g.oldest cap := by
  rw [Buffer.size, h.samples, List.length_drop]

/-- Dropping the oldest of what is kept is dropping the oldest of all. -/
theorem append (h : c.Keeps cap g) (xs : List Sample) :
    (c.append xs).Keeps cap { g with history := g.history ++ xs } := by
  have hle := evicted_le cap g.history.length
  have hsamples : (c.append xs).buffer.samples =
      (g.history ++ xs).drop (evicted cap (g.history ++ xs).length) := by
    have hkept : c.buffer.samples ++ xs = (g.history ++ xs).drop (g.oldest cap) := by
      rw [h.samples]
      exact (List.drop_append_of_le_length hle).symm
    have hmore : g.oldest cap + evicted cap ((g.history ++ xs).length - g.oldest cap) =
        evicted cap (g.history ++ xs).length := by
      rw [Ledger.oldest, List.length_append, evicted, evicted, evicted]
      split <;> omega
    rw [Collector.append, Buffer.samples_append, h.cap_eq, hkept, Buffer.retain_eq_drop,
      List.drop_drop, List.length_drop, hmore]
  refine ⟨h.cap_eq, hsamples, ?_, ?_⟩
  · have hunsent : (c.append xs).buffer.unsent =
        min (c.buffer.unsent + xs.length) (c.append xs).buffer.samples.length := rfl
    have hcount : ∀ n k, g.sent ≤ n →
        min (n - max g.sent (evicted cap n) + k) (n + k - evicted cap (n + k)) =
          n + k - max g.sent (evicted cap (n + k)) := by
      intro n k hn
      rw [evicted, evicted]
      split <;> omega
    rw [hunsent, hsamples, h.unsent, List.length_drop, List.length_append]
    rw [Ledger.next, Ledger.next, Ledger.oldest, Ledger.oldest, List.length_append]
    exact hcount g.history.length xs.length h.sent_le
  · rw [List.length_append]
    exact Nat.le_add_right_of_le h.sent_le

/-- What is handed out has not been handed out before, and all of it counts as handed out. -/
theorem send (h : c.Keeps cap g) : c.buffer.send.1 = g.history.drop (g.next cap) ∧
    Keeps cap { g with sent := g.history.length } { c with buffer := c.buffer.send.2 } := by
  have hle := evicted_le cap g.history.length
  have hsent := h.sent_le
  constructor
  · have hskip : g.oldest cap + (g.history.length - g.oldest cap -
        (g.history.length - g.next cap)) = g.next cap := by
      rw [Ledger.next, Ledger.oldest]
      omega
    have hout : c.buffer.send.1 =
        c.buffer.samples.drop (c.buffer.samples.length - c.buffer.unsent) := rfl
    rw [hout, h.unsent, h.samples, List.length_drop, List.drop_drop, hskip]
  · refine ⟨h.cap_eq, h.samples, ?_, Nat.le_refl _⟩
    rw [Ledger.next]
    dsimp only [Buffer.send]
    omega

theorem window?_eq (h : c.Keeps cap g) (n : Nat) : c.buffer.window? n =
    if n ≤ g.history.length - g.oldest cap then some (g.history.drop (g.history.length - n))
    else none := by
  have hle := evicted_le cap g.history.length
  rw [Buffer.window?, h.samples, List.length_drop, List.drop_drop]
  by_cases hn : n ≤ g.history.length - g.oldest cap
  · have hskip : g.oldest cap + (g.history.length - g.oldest cap - n) = g.history.length - n := by
      rw [Ledger.oldest] at hn ⊢
      omega
    rw [if_pos hn, if_pos hn, hskip]
  · rw [if_neg hn, if_neg hn]

/-- With any cap the last sample is kept. -/
theorem latest?_eq (h : c.Keeps cap g) : c.buffer.latest? = g.history.getLast? := by
  rw [Buffer.latest?, h.samples, List.getLast?_drop]
  by_cases hall : g.history.length ≤ g.oldest cap
  · have hnil : g.history.length = 0 := by
      rw [Ledger.oldest, evicted] at hall
      split at hall <;> omega
    rw [if_pos hall, List.length_eq_zero_iff.1 hnil]
    rfl
  · rw [if_neg hall]

/-- A collector answers a request as its ledger does, and both go on together. -/
theorem serve (h : c.Keeps cap g) (r : Request) :
    (c.serve r).1 = g.reply cap r ∧ (c.serve r).2.Keeps cap (g.enter r) := by
  have same : c.Keeps cap { g with history := g.history ++ [] } := by
    rw [List.append_nil]
    exact h
  cases r with
  | append xs => exact ⟨rfl, h.append xs⟩
  | collect answer =>
    cases answer with
    | none => exact ⟨rfl, same⟩
    | some result =>
      cases result with
      | error e => exact ⟨rfl, same⟩
      | ok xs => exact ⟨rfl, h.append xs⟩
  | send => exact ⟨congrArg Reply.sent h.send.1, h.send.2⟩
  | window n => exact ⟨congrArg Reply.window (h.window?_eq n), same⟩
  | latest => exact ⟨congrArg Reply.latest h.latest?_eq, same⟩
  | size => exact ⟨congrArg Reply.size h.size_eq, same⟩

end Keeps

theorem keeps_served (metric : Metric) (cap : Nat) (rs : List Request) :
    ((new metric cap).served rs).Keeps cap (Ledger.of rs) := by
  induction rs using List.reverseRecOn with
  | nil => exact keeps_new metric cap
  | append_singleton rs r ih =>
    rw [served, List.foldl_append, Ledger.of_append_singleton]
    exact (ih.serve r).2

/-! ## Handing out -/

/-- After these requests a send hands out the sample at this position of the history. -/
def HandsOut (cap : Nat) (before : List Request) (p : Nat) : Prop :=
  (Ledger.of before).next cap ≤ p ∧ p < (Ledger.of before).history.length

/-- Nothing is handed out that was there at an earlier send. -/
theorem not_handsOut_of_lt_sent {before : List Request} {p : Nat}
    (h : p < (Ledger.of before).sent) : ¬ HandsOut cap before p := by
  intro hands
  have hnext : (Ledger.of before).sent ≤ (Ledger.of before).next cap := Nat.le_max_left _ _
  exact absurd hands.1 (by omega)

/-- What is handed out by one send is not handed out by a later one. -/
theorem HandsOut.once {before between : List Request} {p : Nat} (h : HandsOut cap before p) :
    ¬ HandsOut cap (before ++ .send :: between) p :=
  not_handsOut_of_lt_sent (Nat.lt_of_lt_of_le h.2 (Ledger.length_le_sent before between))

/-- A sample is handed out at some time, or it is still to be handed out, or it was dropped
before it was handed out. -/
theorem handed_out_or_waits_or_lost (cap : Nat) (rs : List Request) (p : Nat) :
    (∃ before after, rs = before ++ .send :: after ∧ HandsOut cap before p) ∨
      (Ledger.of rs).next cap ≤ p ∨
      ∃ before after, rs = before ++ after ∧ p < (Ledger.of before).oldest cap ∧
        ∀ earlier between, before = earlier ++ .send :: between → ¬ HandsOut cap earlier p := by
  -- Nothing that came in after the last send has been handed out.
  have fresh : ∀ rs : List Request, (Ledger.of rs).sent ≤ p →
      ∀ earlier between, rs = earlier ++ .send :: between → ¬ HandsOut cap earlier p := by
    rintro rs hsent earlier between rfl hands
    have hle := Ledger.length_le_sent earlier between
    exact absurd hands.2 (by omega)
  by_cases hsent : (Ledger.of rs).sent ≤ p
  · by_cases hkept : (Ledger.of rs).oldest cap ≤ p
    · exact .inr (.inl (Nat.max_le.2 ⟨hsent, hkept⟩))
    · exact .inr (.inr ⟨rs, [], (List.append_nil rs).symm, Nat.not_le.1 hkept, fresh rs hsent⟩)
  · obtain ⟨before, after, rfl, hbefore, hlt⟩ := Ledger.exists_turn (Nat.not_le.1 hsent)
    by_cases hkept : (Ledger.of before).oldest cap ≤ p
    · exact .inl ⟨before, after, rfl, Nat.max_le.2 ⟨hbefore, hkept⟩, hlt⟩
    · exact .inr (.inr ⟨before, .send :: after, rfl, Nat.not_le.1 hkept, fresh before hbefore⟩)

/-! ## Queries -/

/-- A query that fails, or is given up, leaves a collector as it is. -/
theorem serve_of_failure {answer : Option (Except SourceError (List Sample))}
    (failed : ∀ xs, answer ≠ some (.ok xs)) : (c.serve (.collect answer)).2 = c := by
  cases answer with
  | none => rfl
  | some result =>
    cases result with
    | error e => rfl
    | ok xs => exact absurd rfl (failed xs)

/-- When a query of a loop ends, its collector takes in the answer, and nothing else changes
among the collectors. -/
theorem collectors_takeAnswer (s : Controller) (id : Nat)
    (answer : Option (Except SourceError (List Sample))) :
    (s.takeAnswer id answer).collectors =
      s.collectors.modify id fun c => (c.serve (.collect answer)).2 := by
  cases answer with
  | none =>
    have hsame : s.collectors.items.modify id (fun c => c) = s.collectors.items :=
      List.modify_id id _
    rw [Controller.takeAnswer, Arena.modify]
    exact (congrArg Arena.mk hsame).symm
  | some result => rfl

/-! ## All that is asked -/

/-- Whatever is asked of a collector before, it holds the newest samples up to its cap and
answers as the ledger does. A query that fails or takes too long changes nothing; this is how
a loop ends its queries. No sample is handed out twice, and one that is neither handed out nor
still to be handed out was dropped before its turn. -/
theorem answers_as_ledger (metric : Metric) (cap : Nat) (rs : List Request) :
    let c := (new metric cap).served rs
    let h := rs.flatMap Request.brings
    c.buffer.samples = h.drop (evicted cap h.length) ∧
      c.buffer.size = (if cap = 0 then h.length else min cap h.length) ∧
      (∀ r, (c.serve r).1 = (Ledger.of rs).reply cap r) ∧
      (∀ answer, (∀ xs, answer ≠ some (.ok xs)) → (c.serve (.collect answer)).2 = c) ∧
      (∀ (s : Controller) id answer, (s.takeAnswer id answer).collectors =
        s.collectors.modify id fun x => (x.serve (.collect answer)).2) ∧
      (∀ before between p, HandsOut cap before p →
        ¬ HandsOut cap (before ++ .send :: between) p) ∧
      ∀ p < h.length,
        (∃ before after, rs = before ++ .send :: after ∧ HandsOut cap before p) ∨
          (Ledger.of rs).next cap ≤ p ∨
          ∃ before after, rs = before ++ after ∧ p < (Ledger.of before).oldest cap ∧
            ∀ earlier between, before = earlier ++ .send :: between →
              ¬ HandsOut cap earlier p := by
  intro c h
  have keeps : c.Keeps cap (Ledger.of rs) := keeps_served metric cap rs
  have hhistory : (Ledger.of rs).history = h := Ledger.history_of rs
  refine ⟨?_, ?_, fun r => (keeps.serve r).1, fun _ => serve_of_failure,
    collectors_takeAnswer, fun _ _ _ hands => hands.once,
    fun p _ => handed_out_or_waits_or_lost cap rs p⟩
  · rw [← hhistory]
    exact keeps.samples
  · rw [keeps.size_eq, ← hhistory, Ledger.oldest, evicted]
    split <;> omega

/-- Of three samples two are kept, and these are handed out once. -/
example (metric : Metric) (x y z : Sample) :
    let c := (new metric 2).served [.append [x, y], .collect none, .append [z]]
    (c.serve (.window 2)).1 = .window (some [y, z]) ∧
      (c.serve (.window 3)).1 = .window none ∧
      (c.serve .send).1 = .sent [y, z] ∧
      ((c.served [.send]).serve .send).1 = .sent [] :=
  ⟨rfl, rfl, rfl, rfl⟩

end Collector

end PredictiveScaling
