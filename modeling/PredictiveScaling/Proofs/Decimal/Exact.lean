import Mathlib.Algebra.Order.Field.Power
import Mathlib.Data.Rat.Cast.Order
import Mathlib.Tactic.NormNum
import Mathlib.Tactic.Positivity
import Mathlib.Tactic.Ring
import PredictiveScaling.Decimal.Binary

/-!
# Doubles as rational numbers

A finite double is a rational number: its significand times a power of two. Doubles are compared
by their exponents first, and only then by their significands. That this compares the numbers
rests on significands being as long as they can be: one that is shorter stands under the least
exponent of all (`Value.Canonical`).
-/
namespace PredictiveScaling.Decimal

namespace Value

/-- The number that a finite double is. -/
def rational? : Value → Option ℚ
  | .finite negative significand exponent =>
    some ((if negative then -1 else 1) * (significand * 2 ^ exponent))
  | _ => none

/-- A significand has at most 53 bits, and fewer only under the least exponent. -/
def Canonical : Value → Prop
  | .finite _ significand exponent => significand < 2 ^ 53 ∧ -1074 ≤ exponent ∧
    (2 ^ 52 ≤ significand ∨ exponent = -1074)
  | _ => True

open Float.Model in
/-- A double that is taken apart into what the built-in operations see. -/
def ofUnpacked : UnpackedFloat → Value
  | .notANumber => .nan
  | .infinity s => .infinite (s == .negative)
  | .zero s => .finite (s == .negative) 0 (-1074)
  | .finite s m e _ => .finite (s == .negative) m e

end Value

/-- The number that a double is, if it is finite. -/
def rational? (x : Float) : Option ℚ := (valueOf x).rational?

/-! ## Reading the bits -/

theorem canonical_valueOf (x : Float) : (valueOf x).Canonical := by
  have hfraction : x.toBits.toNat % twoTo 52 < 2 ^ 52 := Nat.mod_lt _ (by decide)
  have hexponent : x.toBits.toNat / twoTo 52 % 2048 < 2048 := Nat.mod_lt _ (by decide)
  have hbit : twoTo 52 = 2 ^ 52 := rfl
  simp only [valueOf, valueOfBits]
  split
  · split <;> trivial
  · split
    · exact ⟨by omega, by omega, .inr rfl⟩
    · exact ⟨by omega, by omega, .inl (by omega)⟩

section Bits

open Float.Model UnpackedFloat

variable (b : BitVec Format.binary64.numBits)

theorem toNat_unpackMantissa : (unpackMantissa b).toNat = b.toNat % twoTo 52 := by
  simp [unpackMantissa, BitVec.extractLsb, twoTo]

theorem toNat_unpackExponent : (unpackExponent b).toNat = b.toNat / twoTo 52 % 2048 := by
  simp [unpackExponent, BitVec.extractLsb, twoTo, Nat.shiftRight_eq_div_pow]

theorem isNegative_unpackSign :
    (Sign.ofBitVec (unpackSign b) == .negative) = decide (b.toNat / twoTo 63 = 1) := by
  have hbits : b.toNat < 2 ^ 64 := b.isLt
  have hsign : (unpackSign b).toNat = b.toNat / 2 ^ 63 % 2 := by
    unfold unpackSign
    simp [BitVec.extractLsb, Nat.shiftRight_eq_div_pow]
  have hbit : twoTo 63 = 2 ^ 63 := rfl
  rw [Sign.ofBitVec, hbit]
  by_cases h : unpackSign b = 0#1
  · have hzero : (unpackSign b).toNat = 0 := congrArg BitVec.toNat h
    rw [if_pos h, decide_eq_false (by omega)]
    rfl
  · have hone : (unpackSign b).toNat ≠ 0 := fun hzero => h (BitVec.eq_of_toNat_eq hzero)
    rw [if_neg h, decide_eq_true (by omega)]
    rfl

/-- The leading bit of a significand is not written down. -/
theorem toNat_withLeadingBit :
    (1#1 ++ unpackMantissa b).toNat = twoTo 52 + (unpackMantissa b).toNat := by
  rw [BitVec.toNat_append, ← Nat.shiftLeft_add_eq_or_of_lt (unpackMantissa b).isLt]
  rfl

/-- Both ways to read the bits of a double come to the same. -/
theorem valueOfBits_ofBitVec :
    valueOfBits (.ofBitVec b) = .ofUnpacked (.unpack Format.binary64 b) := by
  have hword : (UInt64.ofBitVec b).toNat = b.toNat := rfl
  have hinfinite : unpackExponent b = -1#_ ↔ (unpackExponent b).toNat = 2047 :=
    BitVec.toNat_inj.symm
  have hleast : unpackExponent b = 0#_ ↔ (unpackExponent b).toNat = 0 := BitVec.toNat_inj.symm
  have hwhole : unpackMantissa b = 0#_ ↔ (unpackMantissa b).toNat = 0 := BitVec.toNat_inj.symm
  rw [valueOfBits, hword, ← toNat_unpackExponent, ← toNat_unpackMantissa,
    ← isNegative_unpackSign]
  unfold UnpackedFloat.unpack
  dsimp only
  by_cases hexponent : unpackExponent b = -1#_
  · rw [if_pos (hinfinite.1 hexponent), if_pos hexponent]
    by_cases hmantissa : unpackMantissa b = 0#_
    · rw [if_pos (hwhole.1 hmantissa), if_pos hmantissa]
      rfl
    · rw [if_neg (mt hwhole.2 hmantissa), if_neg hmantissa]
      rfl
  · rw [if_neg (mt hinfinite.2 hexponent), if_neg hexponent]
    by_cases hzero : unpackExponent b = 0#_
    · rw [if_pos (hleast.1 hzero), if_pos hzero]
      by_cases hmantissa : unpackMantissa b = 0#_
      · rw [dif_pos hmantissa, hwhole.1 hmantissa]
        rfl
      · rw [dif_neg hmantissa, hleast.1 hzero]
        rfl
    · rw [if_neg (mt hleast.2 hzero), if_neg hzero]
      exact congrArg₂ (Value.finite _) (toNat_withLeadingBit b).symm rfl

theorem valueOf_eq_ofUnpacked (x : Float) : valueOf x = .ofUnpacked x.toModel.unpack :=
  valueOfBits_ofBitVec x.toModel.toBits.toBitVec

end Bits

/-! ## Comparing -/

namespace Value

/-- Of two significands under exponents, the one that stands for less comes first. -/
theorem mul_twoPow_le_iff {m m' : Nat} {e e' : Int} (h : (finite false m e).Canonical)
    (h' : (finite false m' e').Canonical) :
    (m : ℚ) * 2 ^ e ≤ m' * 2 ^ e' ↔ e < e' ∨ e = e' ∧ m ≤ m' := by
  -- Under a greater exponent a significand is long enough to stand for more.
  have below : ∀ {n n' : Nat} {i i' : Int}, (finite false n i).Canonical →
      (finite false n' i').Canonical → i < i' → (n : ℚ) * 2 ^ i < n' * 2 ^ i' := by
    intro n n' i i' hn hn' hlt
    have hlong : 2 ^ 52 ≤ n' := hn'.2.2.resolve_right (by have := hn.2.1; omega)
    have hn : (n : ℚ) < 2 ^ 53 := by exact_mod_cast hn.1
    have hlong : (2 : ℚ) ^ 52 ≤ n' := by exact_mod_cast hlong
    calc (n : ℚ) * 2 ^ i < 2 ^ 53 * 2 ^ i := by gcongr
      _ = 2 ^ 52 * 2 ^ (i + 1) := by rw [zpow_add_one₀ two_ne_zero]; ring
      _ ≤ 2 ^ 52 * 2 ^ i' := by gcongr <;> [norm_num; omega]
      _ ≤ n' * 2 ^ i' := by gcongr
  rcases lt_trichotomy e e' with hlt | rfl | hgt
  · exact iff_of_true (below h h' hlt).le (.inl hlt)
  · have hpos : (0 : ℚ) < 2 ^ e := by positivity
    rw [mul_le_mul_iff_left₀ hpos, Nat.cast_le]
    simp
  · exact iff_of_false (below h' h hgt).not_ge (by omega)

end Value

section Compare

open Float.Model UnpackedFloat Value

variable {m m' : Nat} {e e' : Int} {hm : 0 < m} {hm' : 0 < m'}

theorem rational?_ofUnpacked_zero (s : Sign) : (ofUnpacked (.zero s)).rational? = some 0 :=
  congrArg some (by rw [Nat.cast_zero, zero_mul, mul_zero])

theorem rational?_ofUnpacked_positive :
    (ofUnpacked (.finite .positive m e hm)).rational? = some ((m : ℚ) * 2 ^ e) :=
  congrArg some (one_mul _)

theorem rational?_ofUnpacked_negative :
    (ofUnpacked (.finite .negative m e hm)).rational? = some (-((m : ℚ) * 2 ^ e)) :=
  congrArg some (neg_one_mul _)

theorem le_positive_iff :
    (UnpackedFloat.finite .positive m e hm).le (.finite .positive m' e' hm') = true ↔
      e < e' ∨ e = e' ∧ m ≤ m' := by
  change ((compare e e').then (compare m m')).isLE = true ↔ _
  simp only [Ordering.isLE_then_iff_or, Int.compare_eq_lt, Int.compare_eq_eq, Nat.isLE_compare]

theorem le_negative_iff :
    (UnpackedFloat.finite .negative m e hm).le (.finite .negative m' e' hm') = true ↔
      e' < e ∨ e' = e ∧ m' ≤ m := by
  change ((compare e e').then (compare m m')).swap.isLE = true ↔ _
  simp only [Ordering.swap_then, Int.compare_swap, Nat.compare_swap, Ordering.isLE_then_iff_or,
    Int.compare_eq_lt, Int.compare_eq_eq, Nat.isLE_compare]

/-- The built-in comparison compares numbers. -/
theorem unpacked_le_iff {u v : UnpackedFloat} {a b : ℚ} (hu : (ofUnpacked u).Canonical)
    (hv : (ofUnpacked v).Canonical) (ha : (ofUnpacked u).rational? = some a)
    (hb : (ofUnpacked v).rational? = some b) : u.le v = true ↔ a ≤ b := by
  have pos : ∀ {m : Nat} (e : Int), 0 < m → (0 : ℚ) < m * 2 ^ e := fun e hm =>
    mul_pos (Nat.cast_pos.2 hm) (zpow_pos two_pos e)
  rcases u with _ | _ | s | ⟨_ | _, m, e, hm⟩
  case infinity => cases ha
  case notANumber => cases ha
  case zero =>
    obtain rfl := Option.some.inj ((rational?_ofUnpacked_zero s).symm.trans ha)
    rcases v with _ | _ | s' | ⟨_ | _, m', e', hm'⟩
    case infinity => cases hb
    case notANumber => cases hb
    case zero =>
      obtain rfl := Option.some.inj ((rational?_ofUnpacked_zero s').symm.trans hb)
      exact iff_of_true rfl le_rfl
    case finite.negative =>
      obtain rfl := Option.some.inj (rational?_ofUnpacked_negative.symm.trans hb)
      exact iff_of_false Bool.false_ne_true (neg_neg_of_pos (pos e' hm')).not_ge
    case finite.positive =>
      obtain rfl := Option.some.inj (rational?_ofUnpacked_positive.symm.trans hb)
      exact iff_of_true rfl (pos e' hm').le
  case finite.negative =>
    obtain rfl := Option.some.inj (rational?_ofUnpacked_negative.symm.trans ha)
    rcases v with _ | _ | s' | ⟨_ | _, m', e', hm'⟩
    case infinity => cases hb
    case notANumber => cases hb
    case zero =>
      obtain rfl := Option.some.inj ((rational?_ofUnpacked_zero s').symm.trans hb)
      exact iff_of_true rfl (neg_nonpos.2 (pos e hm).le)
    case finite.negative =>
      obtain rfl := Option.some.inj (rational?_ofUnpacked_negative.symm.trans hb)
      rw [le_negative_iff, neg_le_neg_iff, mul_twoPow_le_iff hv hu]
    case finite.positive =>
      obtain rfl := Option.some.inj (rational?_ofUnpacked_positive.symm.trans hb)
      exact iff_of_true rfl ((neg_neg_of_pos (pos e hm)).trans (pos e' hm')).le
  case finite.positive =>
    obtain rfl := Option.some.inj (rational?_ofUnpacked_positive.symm.trans ha)
    rcases v with _ | _ | s' | ⟨_ | _, m', e', hm'⟩
    case infinity => cases hb
    case notANumber => cases hb
    case zero =>
      obtain rfl := Option.some.inj ((rational?_ofUnpacked_zero s').symm.trans hb)
      exact iff_of_false Bool.false_ne_true (pos e hm).not_ge
    case finite.negative =>
      obtain rfl := Option.some.inj (rational?_ofUnpacked_negative.symm.trans hb)
      exact iff_of_false Bool.false_ne_true
        ((neg_neg_of_pos (pos e' hm')).trans (pos e hm)).not_ge
    case finite.positive =>
      obtain rfl := Option.some.inj (rational?_ofUnpacked_positive.symm.trans hb)
      rw [le_positive_iff, mul_twoPow_le_iff hu hv]

theorem unpacked_le_eq_false {u : UnpackedFloat} {a : ℚ} (ha : (ofUnpacked u).rational? = some a) :
    u.le (.infinity .negative) = false ∧ u.le .notANumber = false ∧
      UnpackedFloat.le (.infinity .positive) u = false := by
  rcases u with _ | _ | s | ⟨_ | _, m, e, hm⟩
  case infinity => cases ha
  case notANumber => cases ha
  all_goals exact ⟨rfl, rfl, rfl⟩

/-- What is between two numbers is a number. -/
theorem exists_rational?_of_between {u v w : UnpackedFloat} {a b : ℚ}
    (ha : (ofUnpacked u).rational? = some a) (hb : (ofUnpacked w).rational? = some b)
    (above : u.le v = true) (below : v.le w = true) : ∃ q, (ofUnpacked v).rational? = some q := by
  obtain ⟨hlowest, hnan, -⟩ := unpacked_le_eq_false ha
  obtain ⟨-, -, hhighest⟩ := unpacked_le_eq_false hb
  rcases v with (_ | _) | _ | s | ⟨s, m, e, hm⟩
  case infinity.negative => cases hlowest.symm.trans above
  case infinity.positive => cases hhighest.symm.trans below
  case notANumber => cases hnan.symm.trans above
  case zero => exact ⟨_, rfl⟩
  case finite => exact ⟨_, rfl⟩

end Compare

/-- A double is compared as what the built-in operations see. -/
theorem le_iff_unpacked {x y : Float} : x ≤ y ↔ x.toModel.unpack.le y.toModel.unpack = true := by
  change decide (x.toModel ≤ y.toModel) = true ↔ _
  rw [decide_eq_true_iff]
  rfl

/-- Of finite doubles the numbers that they are get compared. -/
theorem le_iff_rational {x y : Float} {a b : ℚ} (hx : rational? x = some a)
    (hy : rational? y = some b) : x ≤ y ↔ a ≤ b := by
  have canonical : ∀ z : Float, (Value.ofUnpacked z.toModel.unpack).Canonical := fun z =>
    valueOf_eq_ofUnpacked z ▸ canonical_valueOf z
  rw [rational?, valueOf_eq_ofUnpacked] at hx hy
  rw [le_iff_unpacked, unpacked_le_iff (canonical x) (canonical y) hx hy]

theorem rational?_zero : rational? 0.0 = some 0 := by
  rw [rational?, valueOf_eq_ofUnpacked]
  exact rational?_ofUnpacked_zero .positive

theorem rational?_one : rational? 1.0 = some 1 := by
  have hunpack : (1.0 : Float).toModel.unpack =
      .finite .positive (2 ^ 52) (-52) (Nat.two_pow_pos 52) := rfl
  rw [rational?, valueOf_eq_ofUnpacked, hunpack, rational?_ofUnpacked_positive]
  norm_num

/-- A double is compared with zero and one as the number that it is, and it has to be one. -/
theorem between_zero_one_iff (x : Float) :
    0.0 ≤ x ∧ x ≤ 1.0 ↔ ∃ q, rational? x = some q ∧ 0 ≤ q ∧ q ≤ 1 := by
  constructor
  · rintro ⟨hzero, hone⟩
    obtain ⟨q, hq⟩ : ∃ q, rational? x = some q := by
      have hz := rational?_zero
      have ho := rational?_one
      rw [rational?, valueOf_eq_ofUnpacked] at hz ho ⊢
      exact exists_rational?_of_between hz ho (le_iff_unpacked.1 hzero) (le_iff_unpacked.1 hone)
    exact ⟨q, hq, (le_iff_rational rational?_zero hq).1 hzero,
      (le_iff_rational hq rational?_one).1 hone⟩
  · rintro ⟨q, hq, hzero, hone⟩
    exact ⟨(le_iff_rational rational?_zero hq).2 hzero, (le_iff_rational hq rational?_one).2 hone⟩

end PredictiveScaling.Decimal
