/-!
# Counts as words

Replica counts are signed words of 32 bits and their weighted sums words of 64. Both are
linearly ordered; the larger and the smaller of two words are what they should be.
-/
namespace PredictiveScaling

/-! ## The larger and the smaller of two -/

@[grind =] theorem word_max_eq (a b : Int32) : max a b = if a ≤ b then b else a := rfl

@[grind =] theorem word_min_eq (a b : Int32) : min a b = if a ≤ b then a else b := rfl

@[grind =] theorem wide_max_eq (a b : Int64) : max a b = if a ≤ b then b else a := rfl

instance instLawfulOrderMaxInt32 : Std.LawfulOrderMax Int32 := .of_max_le_iff (by grind) (by grind)

instance instLawfulOrderMinInt32 : Std.LawfulOrderMin Int32 := .of_le_min_iff (by grind) (by grind)

instance instLawfulOrderMaxInt64 : Std.LawfulOrderMax Int64 := .of_max_le_iff (by grind) (by grind)

theorem word_le_max_right (a b : Int32) : b ≤ max a b := by grind

end PredictiveScaling
