import PredictiveScaling.Json.Record
import PredictiveScaling.Proofs.Decimal.Finite

/-!
# Numbers that are read are finite

A numeral that is too large for a double has no value, and no numeral has another value than a
finite one (`Json.isFinite_of_float?`). The significand of a numeral is a 64-bit word and far below
the greatest double; it is divided by powers of ten only, which leads away from it, and a product
with a power of ten that turned out infinite is refused.
-/
namespace PredictiveScaling

namespace Decimal

variable {num den : Nat}

theorem roundDiv_le (num den : Nat) : roundDiv num den ≤ num / den + 1 := by
  simp only [roundDiv]
  split
  · exact Nat.le_succ _
  · split
    · exact Nat.le_refl _
    · split
      · exact Nat.le_succ _
      · exact Nat.le_refl _

/-- A quotient of what has this many bits. -/
theorem roundDiv_le_twoTo {k : Nat} (h : num < twoTo k * den) : roundDiv num den ≤ twoTo k :=
  Nat.le_trans (roundDiv_le num den) (Nat.div_lt_of_lt_mul (Nat.mul_comm _ _ ▸ h))

theorem twoTo_add (a b : Nat) : twoTo (a + b) = twoTo a * twoTo b := Nat.pow_add 2 a b

theorem lt_twoTo_log2 (n : Nat) : n < twoTo (n.log2 + 1) := Nat.lt_log2_self

theorem twoTo_le {a b : Nat} (h : a ≤ b) : twoTo a ≤ twoTo b := Nat.pow_le_pow_right (by decide) h

/-- The significand of a whole number, next to an exponent for numbers of its length or one less. -/
theorem significand_le {n : Nat} {e : Int} (h : (n.log2 : Int) - 53 ≤ e) :
    (if 0 ≤ e then roundDiv n (1 * twoTo e.toNat) else roundDiv (n * twoTo (-e).toNat) 1) ≤
      twoTo 54 := by
  have hn := lt_twoTo_log2 n
  split
  · refine roundDiv_le_twoTo ?_
    rw [Nat.one_mul, ← twoTo_add]
    exact Nat.lt_of_lt_of_le hn (twoTo_le (by omega))
  · refine roundDiv_le_twoTo ?_
    calc n * twoTo (-e).toNat < twoTo (n.log2 + 1) * twoTo (-e).toNat :=
          Nat.mul_lt_mul_of_pos_right hn (twoTo_pos _)
      _ = twoTo (n.log2 + 1 + (-e).toNat) := (twoTo_add _ _).symm
      _ ≤ twoTo 54 := twoTo_le (by omega)
      _ = twoTo 54 * 1 := (Nat.mul_one _).symm

/-- A whole number of 64 bits is not too large for a double. -/
theorem nearestBits_lt {n : Nat} (h : n < twoTo 64) :
    (nearestBits n 1).toNat < 2047 * twoTo 52 := by
  have hbit : twoTo 52 = 4503599627370496 := rfl
  have hbits : twoTo 54 = 18014398509481984 := rfl
  have hone : Nat.log2 1 = 0 := rfl
  by_cases hzero : n = 0
  · rw [nearestBits, if_pos hzero]
    decide
  · have hlog : n.log2 ≤ 63 := Nat.le_of_lt_succ ((Nat.log2_lt hzero).2 h)
    rw [nearestBits, if_neg hzero]
    extract_lets k atLeast magnitude exponent significand bits
    have hk : k = n.log2 := by
      simp only [k, hone]
      omega
    have hmagnitude : (n.log2 : Int) - 1 ≤ magnitude ∧ magnitude ≤ n.log2 := by
      simp only [magnitude, hk]
      split <;> omega
    have hexponent : (n.log2 : Int) - 53 ≤ exponent ∧ exponent ≤ 11 := by
      simp only [exponent]
      omega
    have hsignificand : significand ≤ twoTo 54 := significand_le hexponent.1
    have hplace : (exponent + 1074).toNat ≤ 1085 := by omega
    have hlt : bits < 2047 * twoTo 52 := by
      simp only [bits]
      split
      · omega
      · calc (exponent + 1074).toNat * twoTo 52 + significand
            ≤ 1085 * twoTo 52 + twoTo 54 :=
              Nat.add_le_add (Nat.mul_le_mul_right _ hplace) hsignificand
          _ < 2047 * twoTo 52 := by decide
    rw [if_neg (Nat.not_le.2 hlt), UInt64.toNat_ofNat', Nat.mod_eq_of_lt (by omega)]
    exact hlt

theorem isFinite_nearest {n : Nat} (h : n < twoTo 64) : isFinite (nearest n 1) = true := by
  have hlt := nearestBits_lt h
  refine isFinite_ofBits (Nat.ne_of_lt (Nat.lt_of_le_of_lt (Nat.mod_le _ _) ?_))
  rwa [Nat.div_lt_iff_lt_mul (twoTo_pos 52)]

end Decimal

namespace Json

open Decimal

variable {x y : Float}

/-! ## Powers of ten -/

/-- A power of ten that is at least two, as far as it is one, and that has the full length of a
double. -/
def isWidePower (k : Nat) : Bool :=
  match valueOf (powerOfTen k) with
  | .finite false m e => twoTo 52 ≤ m && (k = 0 || -51 ≤ e)
  | _ => false

theorem isWidePower_of_lt : ∀ k < 309, isWidePower k = true := by decide +kernel

theorem exists_valueOf_powerOfTen {k : Nat} (h : k ≤ 308) : ∃ m e,
    valueOf (powerOfTen k) = .finite false m e ∧ 2 ^ 52 ≤ m ∧ (0 < k → -51 ≤ e) := by
  have wide := isWidePower_of_lt k (Nat.lt_succ_of_le h)
  rw [isWidePower] at wide
  split at wide
  · next m e hvalue =>
    simp only [Bool.and_eq_true, Bool.or_eq_true, decide_eq_true_eq] at wide
    exact ⟨m, e, hvalue, wide.1, fun hk => wide.2.resolve_left hk.ne'⟩
  · cases wide

theorem isFinite_powerOfTen {k : Nat} (h : k ≤ 308) : isFinite (powerOfTen k) = true := by
  obtain ⟨m, e, hvalue, -⟩ := exists_valueOf_powerOfTen h
  rw [isFinite, hvalue]

theorem isFinite_div_powerOfTen {k : Nat} (hx : isFinite x = true) (hpos : 0 < k) (h : k ≤ 308) :
    isFinite (x / powerOfTen k) = true := by
  obtain ⟨m, e, hvalue, long, wide⟩ := exists_valueOf_powerOfTen h
  exact isFinite_div hx hvalue long (wide hpos)

theorem isFinite_divPowerOfTen {k : Nat} (hx : isFinite x = true) (hpos : 0 < k) :
    isFinite (divPowerOfTen x k) = true := by
  induction x, k using divPowerOfTen.induct with
  | case1 x k small =>
    rw [divPowerOfTen, if_pos small]
    exact isFinite_div_powerOfTen hx hpos small
  | case2 x k large zero =>
    rw [divPowerOfTen, if_neg large, if_pos zero]
    exact hx
  | case3 x k large nonzero ih =>
    rw [divPowerOfTen, if_neg large, if_neg nonzero]
    exact ih (isFinite_div_powerOfTen hx (by decide) (Nat.le_refl _)) (by omega)

theorem isFinite_of_scale? {e : Int} (hx : isFinite x = true) (h : scale? x e = some y) :
    isFinite y = true := by
  rw [scale?] at h
  split at h
  · cases h
    exact isFinite_divPowerOfTen hx (by omega)
  · split at h
    · dsimp only at h
      split at h
      · cases h
      · next bounded =>
        cases h
        exact isFinite_mul hx (isFinite_powerOfTen (by omega)) (Bool.not_eq_true _ ▸ bounded)
    · split at h
      · cases h
        exact hx
      · cases h

/-! ## Numerals -/

theorem takeWhole_le {n : Nat} (h : n ≤ maxSignificand) (ds : List Nat) :
    (takeWhole n ds).1 ≤ maxSignificand := by
  induction ds generalizing n with
  | nil => exact h
  | cons d ds ih =>
    rw [takeWhole]
    split
    · next fits => exact ih fits
    · exact h

theorem takePart_le {n : Nat} (h : n ≤ maxSignificand) (taken : Nat) (ds : List Nat) :
    (takePart n taken ds).1 ≤ maxSignificand := by
  induction ds generalizing n taken with
  | nil => exact h
  | cons d ds ih =>
    rw [takePart]
    split
    · next fits => exact ih fits _
    · exact h

theorem isFinite_significand {n : Nat} (h : n ≤ maxSignificand) :
    isFinite (nearest n 1) = true :=
  isFinite_nearest (Nat.lt_of_le_of_lt h (by decide))

theorem isFinite_withSign (negative : Bool) (hx : isFinite x = true) :
    isFinite (Numeral.withSign negative x) = true := by
  rw [Numeral.withSign]
  split
  · exact isFinite_neg hx
  · exact hx

theorem isFinite_of_numeral_float? {n : Numeral} (h : n.float? = some x) : isFinite x = true := by
  have hsignificand : isFinite (nearest n.scaledDigits.1 1) = true :=
    isFinite_significand (takePart_le (takeWhole_le (Nat.zero_le _) _) _ _)
  have scaled : ∀ {e : Int}, (scale? (nearest n.scaledDigits.1 1) e).map
      (Numeral.withSign n.negative) = some x → isFinite x = true := by
    intro e h
    obtain ⟨y, hy, rfl⟩ := Option.map_eq_some_iff.1 h
    exact isFinite_withSign _ (isFinite_of_scale? hsignificand hy)
  simp only [Numeral.float?] at h
  split at h
  · exact scaled h
  · split at h
    · split at h
      · cases h
      · cases h
        exact isFinite_withSign _ (by decide +kernel)
    · exact scaled h

/-- The value of a numeral, taken as a double, is finite. -/
theorem isFinite_of_value? {n : Numeral} {v : Number} (h : n.value? = some v) :
    isFinite v.toFloat = true := by
  have hwhole : (takeWhole 0 n.whole).1 ≤ maxSignificand := takeWhole_le (Nat.zero_le _) _
  have float : n.float?.map Number.float = some v → isFinite v.toFloat = true := by
    intro h
    obtain ⟨x, hx, rfl⟩ := Option.map_eq_some_iff.1 h
    exact isFinite_of_numeral_float? hx
  rw [Numeral.value?] at h
  split at h
  · dsimp only at h
    split at h
    · split at h
      · cases h
        exact isFinite_significand hwhole
      · split at h
        · cases h
          exact isFinite_neg (isFinite_significand hwhole)
        · cases h
          exact isFinite_neg (isFinite_significand hwhole)
    · exact float h
  · exact float h

/-- A double that is read is finite. -/
theorem isFinite_of_float? {j : Json} (h : float? j = some x) : isFinite x = true := by
  cases j with
  | number n =>
    obtain ⟨v, hv, rfl⟩ := Option.map_eq_some_iff.1 h
    exact isFinite_of_value? hv
  | _ => cases h

end Json

end PredictiveScaling
