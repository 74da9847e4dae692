import PredictiveScaling.Metric

/-!
# What a key tells of a metric

A key is made of name, unit and query with a mark in between, and each of the three may have marks
of its own. So a key tells the texts between all marks (`Metric.key_eq_iff`), but not always where
the name ends and where the unit does. It does where neither of them has a mark
(`Metric.parts_eq_iff`).
-/
namespace PredictiveScaling

/-- A list is known by what is between the marks in it. -/
theorem splitOn_inj {α : Type} [BEq α] [LawfulBEq α] {mark : α} {l l' : List α} :
    l.splitOn mark = l'.splitOn mark ↔ l = l' := by
  constructor
  · intro same
    have joined := congrArg ([mark].intercalate ·) same
    simpa only [List.intercalate_splitOn] using joined
  · intro same
    rw [same]

namespace Metric

variable {m m' : Metric}

/-- The texts between the marks in name, unit and query. -/
def parts (m : Metric) : List (List Char) :=
  m.name.toList.splitOn keyMark ++ m.unit.toList.splitOn keyMark ++
    m.query.toList.splitOn keyMark

theorem splitOn_key (m : Metric) : m.key.toList.splitOn keyMark = m.parts := by
  have marked : m.key.toList =
      m.name.toList ++ keyMark :: (m.unit.toList ++ keyMark :: m.query.toList) := by
    simp only [key, String.toList_append, String.toList_singleton, List.append_assoc,
      List.cons_append, List.nil_append]
  rw [marked, List.splitOn_append_cons_self, List.splitOn_append_cons_self, parts,
    List.append_assoc]

theorem key_eq_iff : m.key = m'.key ↔ m.parts = m'.parts := by
  rw [← splitOn_key, ← splitOn_key, splitOn_inj, String.toList_inj]

/-- A name and a unit without marks. The query may have any. -/
def Plain (m : Metric) : Prop := keyMark ∉ m.name.toList ∧ keyMark ∉ m.unit.toList

theorem parts_of_plain (plain : m.Plain) :
    m.parts = m.name.toList :: m.unit.toList :: m.query.toList.splitOn keyMark := by
  rw [parts, List.splitOn_eq_singleton plain.1, List.splitOn_eq_singleton plain.2]
  rfl

/-- Without marks in names and units, keys tell metrics apart. -/
theorem parts_eq_iff (plain : m.Plain) (plain' : m'.Plain) :
    m.parts = m'.parts ↔ m.name = m'.name ∧ m.unit = m'.unit ∧ m.query = m'.query := by
  rw [parts_of_plain plain, parts_of_plain plain']
  simp only [List.cons.injEq, splitOn_inj, String.toList_inj]

end Metric

end PredictiveScaling
