import PredictiveScaling.Metric

/-!
# Strictness of scale-down settings

Thresholds are doubles, so they are ordered only where they are numbers. Each number has a
place among all others, and comparing two doubles compares their places. With that the
larger of two thresholds meets exactly the demands that one of the two meets.
-/
namespace PredictiveScaling

/-! ## Places of doubles -/

open Float.Model in
/-- The place of a double among all that are numbers: by its sign, its exponent and its
digits. -/
def placeOf? : UnpackedFloat → Option (Int × Int × Int)
  | .notANumber => none
  | .infinity .negative => some (-2, 0, 0)
  | .finite .negative m e _ => some (-1, -e, -m)
  | .zero _ => some (0, 0, 0)
  | .finite .positive m e _ => some (1, e, m)
  | .infinity .positive => some (2, 0, 0)

/-- One place comes before another. -/
def Precedes (a b : Int × Int × Int) : Prop :=
  a.1 < b.1 ∨ a.1 = b.1 ∧ (a.2.1 < b.2.1 ∨ a.2.1 = b.2.1 ∧ a.2.2 < b.2.2)

theorem Precedes.of_not_of {a b c : Int × Int × Int} (hab : ¬ Precedes b a) (hbc : Precedes b c) :
    Precedes a c := by
  rw [Precedes] at *
  omega

open Float.Model in
theorem unpacked_lt_iff (x y : UnpackedFloat) : x.lt y = true ↔
    ∃ a b, placeOf? x = some a ∧ placeOf? y = some b ∧ Precedes a b := by
  rcases x with (_ | _) | _ | s | ⟨_ | _, m, e, hm⟩ <;>
    rcases y with (_ | _) | _ | s' | ⟨_ | _, m', e', hm'⟩ <;>
    dsimp only [UnpackedFloat.lt, UnpackedFloat.compare, placeOf?] <;>
    simp [Precedes, Ordering.then_eq_lt, Ordering.then_eq_gt, Int.compare_eq_lt,
      Int.compare_eq_gt, Nat.compare_eq_lt, Nat.compare_eq_gt]
  decide

/-- The place of a double, unless it is not a number. -/
def place? (x : Float) : Option (Int × Int × Int) := placeOf? x.toModel.unpack

theorem lt_iff_precedes {x y : Float} :
    x < y ↔ ∃ a b, place? x = some a ∧ place? y = some b ∧ Precedes a b := by
  rw [place?, place?, ← unpacked_lt_iff]
  change decide (x.toModel < y.toModel) = true ↔ _
  rw [decide_eq_true_iff]
  rfl

theorem isNaN_iff {x : Float} : x.isNaN = true ↔ place? x = none := by
  change x.toModel.unpack.isNaN = true ↔ placeOf? x.toModel.unpack = none
  rcases x.toModel.unpack with (_ | _) | _ | s | ⟨_ | _, m, e, hm⟩
  case notANumber => exact iff_of_true rfl rfl
  all_goals exact iff_of_false Bool.false_ne_true (Option.some_ne_none _)

/-- A double that is not below a number, which itself is not below a third one, is not below
that either. -/
theorem not_lt_of_not_lt {x y z : Float} (hxy : ¬ x < y) (hy : y.isNaN = false)
    (hyz : ¬ y < z) : ¬ x < z := by
  intro hxz
  obtain ⟨a, c, ha, hc, hac⟩ := lt_iff_precedes.1 hxz
  cases hb : place? y with
  | none =>
    rw [isNaN_iff.2 hb] at hy
    cases hy
  | some b =>
    have hab : ¬ Precedes a b := fun h => hxy (lt_iff_precedes.2 ⟨a, b, ha, hb, h⟩)
    have hbc := Precedes.of_not_of hab hac
    exact hyz (lt_iff_precedes.2 ⟨b, c, hb, hc, hbc⟩)

theorem not_lt_of_lt {x y : Float} (h : x < y) : ¬ y < x := by
  intro h'
  obtain ⟨a, b, ha, hb, hab⟩ := lt_iff_precedes.1 h
  obtain ⟨b', a', hb', ha', hba⟩ := lt_iff_precedes.1 h'
  obtain rfl : b = b' := Option.some.inj (hb.symm.trans hb')
  obtain rfl : a = a' := Option.some.inj (ha.symm.trans ha')
  rw [Precedes] at *
  omega

/-- A duration is no longer than the longer of two if it is no longer than one of them. -/
theorem duration_le_max_iff {a b d : Duration} : d ≤ a.max b ↔ d ≤ a ∨ d ≤ b := by
  change d.millis ≤ max a.millis b.millis ↔ d.millis ≤ a.millis ∨ d.millis ≤ b.millis
  omega

namespace ScaleDown

/-! ## Meeting a demand -/

/-- A threshold is a number, and no smaller than what is demanded. -/
def Meets (threshold demanded : Float) : Prop :=
  threshold.isNaN = false ∧ ¬ threshold < demanded

theorem not_meets_of_isNaN {a x : Float} (h : a.isNaN = true) : ¬ Meets a x := by
  intro hmeets
  have hnumber := hmeets.1
  rw [h] at hnumber
  cases hnumber

/-- The larger of two thresholds meets the demands that one of the two meets. -/
theorem meets_maxThreshold {a b x : Float} :
    Meets (maxThreshold a b) x ↔ Meets a x ∨ Meets b x := by
  rw [maxThreshold]
  cases ha : a.isNaN with
  | true =>
    simp only [if_true]
    exact ⟨.inr, fun h => h.resolve_left (not_meets_of_isNaN ha)⟩
  | false =>
    cases hb : b.isNaN with
    | true =>
      simp only [Bool.false_eq_true, if_false, if_true]
      exact ⟨.inl, fun h => h.resolve_right (not_meets_of_isNaN hb)⟩
    | false =>
      by_cases hab : a < b
      · have weaker : Meets a x → Meets b x := by
          intro h
          exact ⟨hb, not_lt_of_not_lt (not_lt_of_lt hab) ha h.2⟩
        simp only [hab, if_true, Bool.false_eq_true, if_false]
        exact ⟨.inr, fun h => h.elim weaker id⟩
      · have weaker : Meets b x → Meets a x := by
          intro h
          exact ⟨ha, not_lt_of_not_lt hab hb h.2⟩
        simp only [hab, if_false, Bool.false_eq_true]
        exact ⟨.inl, fun h => h.elim id weaker⟩

/-- Among settings, the strictest meet a demand if some of them do. -/
theorem meets_foldl_max {settings : List ScaleDown} {start : ScaleDown} {x : Float} :
    Meets (settings.foldl ScaleDown.max start).threshold x ↔
      Meets start.threshold x ∨ ∃ s ∈ settings, Meets s.threshold x := by
  induction settings generalizing start with
  | nil => simp
  | cons s settings ih =>
    rw [List.foldl_cons, ih]
    simp only [ScaleDown.max, meets_maxThreshold, List.mem_cons, exists_eq_or_imp, or_assoc]

theorem le_duration_foldl_max {settings : List ScaleDown} {start : ScaleDown} {d : Duration} :
    d ≤ (settings.foldl ScaleDown.max start).duration ↔
      d ≤ start.duration ∨ ∃ s ∈ settings, d ≤ s.duration := by
  induction settings generalizing start with
  | nil => simp
  | cons s settings ih =>
    rw [List.foldl_cons, ih]
    simp only [ScaleDown.max, duration_le_max_iff, List.mem_cons, exists_eq_or_imp, or_assoc]

end ScaleDown

end PredictiveScaling
