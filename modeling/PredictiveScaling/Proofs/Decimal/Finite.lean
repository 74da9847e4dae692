import Mathlib
import PredictiveScaling.Proofs.Decimal.Exact

/-!
# Doubles that stay finite

Whether a double is finite is a matter of its exponent alone (`Decimal.inRange_unpack_iff`). So a
product of finite doubles that is not infinite is finite, and so is a quotient by a double that is
at least two, since it is rounded at a distance from the greatest double
(`Decimal.isFinite_mul`, `Decimal.isFinite_div`).
-/
namespace PredictiveScaling.Decimal

open Float.Model UnpackedFloat

/-! ## Exponents -/

theorem exponentBias_binary64 : Format.binary64.exponentBias = 1023 := rfl

/-- A number under an exponent that a double can have. -/
def InRange : UnpackedFloat → Prop
  | .zero _ => True
  | .finite _ _ e _ => e ≤ 971
  | _ => False

/-- What is read of bits is finite unless all bits of the exponent are set. -/
theorem inRange_unpack_iff (b : BitVec Format.binary64.numBits) :
    InRange (.unpack Format.binary64 b) ↔ unpackExponent b ≠ -1#_ := by
  unfold UnpackedFloat.unpack
  dsimp only
  by_cases hset : unpackExponent b = -1#_
  · rw [if_pos hset]
    refine iff_of_false ?_ (not_not_intro hset)
    split <;> exact id
  · rw [if_neg hset]
    refine iff_of_true ?_ hset
    have hlt : (unpackExponent b).toNat < 2047 := by
      have hle : (unpackExponent b).toNat < 2048 := (unpackExponent b).isLt
      have hne : (unpackExponent b).toNat ≠ 2047 := fun h => hset (BitVec.eq_of_toNat_eq h)
      omega
    split
    · next hleast =>
      split
      · trivial
      · have hzero : (unpackExponent b).toNat = 0 := congrArg BitVec.toNat hleast
        rw [InRange, exponentBias_binary64]
        omega
    · rw [InRange, exponentBias_binary64]
      omega

/-- Where a number is stored its exponent counts from the least one up. -/
theorem pack_finite (s : Sign) {m : Nat} (e : Int) (hm : 0 < m) :
    UnpackedFloat.pack Format.binary64 (.finite s m e hm) =
      if 972 ≤ e then packedInfinity Format.binary64 s
      else if m.log2 = 52 then
        packComponents Format.binary64 s (BitVec.ofNat 11 (e + 1075).toNat) (BitVec.ofNat 52 m)
      else packComponents Format.binary64 s 0#11 (BitVec.ofNat 52 m) := by
  have hplace : e + Format.binary64.exponentBias + (52 : Nat) = e + 1075 := by
    rw [exponentBias_binary64]
    omega
  unfold UnpackedFloat.pack
  dsimp only
  rw [hplace]
  refine ite_congr (propext ?_) (fun _ => rfl) fun _ =>
    ite_congr (propext ?_) (fun _ => rfl) fun _ => rfl
  · change 2048 ≤ (e + 1075).toNat + 1 ↔ _
    omega
  · change m.log2 + 1 = 53 ↔ _
    omega

theorem unpackExponent_pack {u : UnpackedFloat} (h : InRange u) :
    unpackExponent (UnpackedFloat.pack Format.binary64 u) ≠ -1#_ := by
  cases u with
  | notANumber => exact h.elim
  | infinity s => exact h.elim
  | zero s =>
    change unpackExponent (packedZero _ s) ≠ _
    rw [packedZero, unpackExponent_packComponents]
    decide
  | finite s m e hm =>
    have hexponent : e ≤ 971 := h
    rw [pack_finite, if_neg (by omega)]
    split
    · rw [unpackExponent_packComponents]
      intro same
      have hnat : (e + 1075).toNat % 2048 = 2047 := congrArg BitVec.toNat same
      omega
    · rw [unpackExponent_packComponents]
      decide

/-- A number in range is stored as one. -/
theorem inRange_unpack_pack {u : UnpackedFloat} (h : InRange u) :
    InRange (Float.Model.pack u).unpack :=
  (inRange_unpack_iff _).2 (unpackExponent_pack h)

/-- A number out of range is stored as infinite. -/
theorem inRange_unpack_pack_of_not_isInf {s : Sign} {m : Nat} {e : Int} {hm : 0 < m}
    (h : (Float.Model.pack (.finite s m e hm)).unpack.isInf = false) :
    InRange (Float.Model.pack (.finite s m e hm)).unpack := by
  by_cases hexponent : e ≤ 971
  · exact inRange_unpack_pack hexponent
  · have hpack : Float.Model.pack (.finite s m e hm) = Float.Model.pack (.infinity s) := by
      have hbits := pack_finite s e hm
      rw [if_pos (by omega)] at hbits
      unfold Float.Model.pack
      rw [Float.Model.mk.injEq]
      exact congrArg UInt64.ofBitVec hbits
    rw [hpack] at h
    cases s <;> cases h

/-- A finite double is one that is read in range. -/
theorem isFinite_iff_inRange (x : Float) : isFinite x = true ↔ InRange x.toModel.unpack := by
  have hrange := inRange_unpack_iff x.toModel.toBits.toBitVec
  change InRange x.toModel.unpack ↔ _ at hrange
  have hset : @unpackExponent Format.binary64 x.toModel.toBits.toBitVec = -1#_ →
      (∃ s, x.toModel.unpack = .infinity s) ∨ x.toModel.unpack = .notANumber := by
    intro h
    change (∃ s, UnpackedFloat.unpack Format.binary64 _ = _) ∨
      UnpackedFloat.unpack Format.binary64 _ = _
    unfold UnpackedFloat.unpack
    dsimp only
    rw [if_pos h]
    split
    · exact .inl ⟨_, rfl⟩
    · exact .inr rfl
  rw [hrange, isFinite, valueOf_eq_ofUnpacked]
  constructor
  · intro finite h
    rcases hset h with ⟨s, hu⟩ | hu <;> rw [hu] at finite <;> cases finite
  · intro h
    have hin := hrange.2 h
    cases hu : x.toModel.unpack with
    | notANumber =>
      rw [hu] at hin
      exact hin.elim
    | infinity s =>
      rw [hu] at hin
      exact hin.elim
    | zero s => rfl
    | finite s m e hm => rfl

/-! ## Rounding -/

theorem mantissa_shiftRight (em : ExtendedMantissa) (k : Nat) :
    (em >>> k).mantissa = em.mantissa / 2 ^ k := by
  induction k with
  | zero => simp [HShiftRight.hShiftRight, Nat.repeat]
  | succ k ih =>
    change (em >>> k).mantissa / 2 = _
    rw [ih, Nat.div_div_eq_div_mul, Nat.pow_succ]

theorem roundedMantissa_le (em : ExtendedMantissa) : em.roundedMantissa ≤ em.mantissa + 1 := by
  rw [ExtendedMantissa.roundedMantissa]
  cases em.accuracy with
  | exact => exact Nat.le_succ _
  | inexact o =>
    cases o with
    | lt => exact Nat.le_succ _
    | gt => exact Nat.le_refl _
    | eq =>
      rw [Accuracy.roundToNearestEven]
      omega

theorem mantissa_ofMantissaAndAccuracy (m : Nat) (a : Accuracy) :
    (ExtendedMantissa.ofMantissaAndAccuracy m a).mantissa = m := by
  rcases a with _ | _ | _ | _ <;> rfl

theorem targetExponent_eq (m : Nat) (e : Int) :
    Format.binary64.targetExponent (totalExponent m e) = max ((m.log2 : Int) + e - 52) (-1074) := by
  have hbits : Format.binary64.mantissaBits = 53 := rfl
  have hleast : Format.binary64.minExponent = -1074 := rfl
  rw [Format.targetExponent, totalExponent, hbits, hleast]
  omega

/-- What rounding makes of a number well below the greatest double is in range. -/
theorem inRange_roundWithAccuracy (s : Sign) {m : Nat} {e : Int} (a : Accuracy)
    (hm : (m.log2 : Int) + e ≤ 1022) (he : e ≤ 970) :
    InRange (roundWithAccuracy Format.binary64 s m e a) := by
  let k := (max ((m.log2 : Int) + e - 52) (-1074) - e).toNat
  let em := ExtendedMantissa.ofMantissaAndAccuracy m a >>> k
  have hfirst : shiftToTargetExponent Format.binary64 m e a = (em, e + (k : Int)) := by
    simp only [shiftToTargetExponent, shiftToExponent, targetExponent_eq, em, k]
  have hmantissa : em.mantissa < 2 ^ 53 := by
    have hlog : m < 2 ^ (m.log2 + 1) := Nat.lt_log2_self
    have hpow : 2 ^ (m.log2 + 1) ≤ 2 ^ (53 + k) := Nat.pow_le_pow_right (by decide) (by omega)
    rw [mantissa_shiftRight, mantissa_ofMantissaAndAccuracy,
      Nat.div_lt_iff_lt_mul (Nat.two_pow_pos k), ← Nat.pow_add]
    omega
  have hrounded : em.roundedMantissa.log2 ≤ 53 := by
    have hle := roundedMantissa_le em
    have hlt : em.roundedMantissa < 2 ^ 54 := by omega
    by_cases hzero : em.roundedMantissa = 0
    · rw [hzero]
      exact Nat.zero_le _
    · exact Nat.le_of_lt_succ ((Nat.log2_lt hzero).2 hlt)
  have hsecond : (shiftToTargetExponent Format.binary64 em.roundedMantissa (e + (k : Int))
      .exact).2 ≤ 971 := by
    simp only [shiftToTargetExponent, shiftToExponent, targetExponent_eq, k]
    omega
  rw [roundWithAccuracy, hfirst]
  dsimp only
  split
  · trivial
  · exact hsecond

theorem roundWithAccuracy_cases (s : Sign) (m : Nat) (e : Int) (a : Accuracy) :
    roundWithAccuracy Format.binary64 s m e a = .zero s ∨
      ∃ m' e' hm', roundWithAccuracy Format.binary64 s m e a = .finite s m' e' hm' := by
  rw [roundWithAccuracy]
  dsimp only
  split
  · exact .inl rfl
  · next hm => exact .inr ⟨_, _, Nat.pos_of_ne_zero hm, rfl⟩

/-! ## Operations -/

variable {x y : Float}

theorem isFinite_neg (hx : isFinite x = true) : isFinite (-x) = true := by
  rw [isFinite_iff_inRange] at hx ⊢
  refine inRange_unpack_pack (u := x.toModel.unpack.neg) ?_
  cases hu : x.toModel.unpack <;> rw [hu] at hx <;> exact hx

theorem isFinite_mul (hx : isFinite x = true) (hy : isFinite y = true)
    (h : (x * y).isInf = false) : isFinite (x * y) = true := by
  rw [isFinite_iff_inRange] at hx hy ⊢
  change (Float.Model.pack (.mul Format.binary64 x.toModel.unpack y.toModel.unpack)).unpack.isInf =
    false at h
  change InRange (Float.Model.pack (.mul Format.binary64 _ _)).unpack
  generalize x.toModel.unpack = u at hx h ⊢
  generalize y.toModel.unpack = v at hy h ⊢
  rcases u with _ | _ | s | ⟨s, m, e, hm⟩
  case notANumber => exact hx.elim
  case infinity => exact hx.elim
  case zero =>
    rcases v with _ | _ | s' | ⟨s', m', e', hm'⟩
    case notANumber => exact hy.elim
    case infinity => exact hy.elim
    case zero => exact inRange_unpack_pack trivial
    case finite => exact inRange_unpack_pack trivial
  case finite =>
    rcases v with _ | _ | s' | ⟨s', m', e', hm'⟩
    case notANumber => exact hy.elim
    case infinity => exact hy.elim
    case zero => exact inRange_unpack_pack trivial
    case finite =>
      rw [UnpackedFloat.mul] at h ⊢
      rcases roundWithAccuracy_cases (s * s') (m * m') (e + e') .exact with
        hround | ⟨m'', e'', hm'', hround⟩
      · rw [hround]
        exact inRange_unpack_pack trivial
      · rw [hround] at h ⊢
        exact inRange_unpack_pack_of_not_isInf h

/-- A quotient by what is at least two is in range. -/
theorem inRange_div {s s' : Sign} {m m' : Nat} {e e' : Int} {hm : 0 < m} {hm' : 0 < m'}
    (hlt : m < 2 ^ 53) (he : e ≤ 971) (hlong : 2 ^ 52 ≤ m') (he' : -51 ≤ e') :
    InRange (.div Format.binary64 (.finite s m e hm) (.finite s' m' e' hm')) := by
  have hlog : m.log2 ≤ 52 := Nat.le_of_lt_succ ((Nat.log2_lt hm.ne').2 hlt)
  have hlog' : 52 ≤ m'.log2 := (Nat.le_log2 hm'.ne').2 hlong
  have htarget :
      Format.binary64.targetExponent (totalExponent m e - totalExponent m' e') ≤ 969 := by
    have hbits : Format.binary64.mantissaBits = 53 := rfl
    have hleast : Format.binary64.minExponent = -1074 := rfl
    rw [Format.targetExponent, totalExponent, totalExponent, hbits, hleast]
    omega
  rw [UnpackedFloat.div, divCore]
  dsimp only
  generalize Format.binary64.targetExponent (totalExponent m e - totalExponent m' e') = t
    at htarget ⊢
  generalize hshift : (e - e' - min (e - e') t).toNat = k
  refine inRange_roundWithAccuracy _ _ ?_ (by omega)
  by_cases hzero : m <<< k / m' = 0
  · rw [hzero]
    have hnone : Nat.log2 0 = 0 := rfl
    omega
  · have hquotient : m <<< k / m' < 2 ^ (k + 1) := by
      rw [Nat.div_lt_iff_lt_mul hm', Nat.shiftLeft_eq]
      calc m * 2 ^ k < 2 ^ 53 * 2 ^ k := (Nat.mul_lt_mul_right (Nat.two_pow_pos k)).2 hlt
        _ = 2 ^ (k + 1) * 2 ^ 52 := by ring
        _ ≤ 2 ^ (k + 1) * m' := Nat.mul_le_mul_left _ hlong
    have hlog := Nat.le_of_lt_succ ((Nat.log2_lt hzero).2 hquotient)
    omega

/-- A quotient of a finite double is finite if the divisor has its full length and a value of at
least two. -/
theorem isFinite_div {m : Nat} {e : Int} (hx : isFinite x = true)
    (hy : valueOf y = .finite false m e) (hlong : 2 ^ 52 ≤ m) (he : -51 ≤ e) :
    isFinite (x / y) = true := by
  have canonical := canonical_valueOf x
  rw [valueOf_eq_ofUnpacked] at hy canonical
  rw [isFinite_iff_inRange] at hx ⊢
  change InRange (Float.Model.pack (.div Format.binary64 _ _)).unpack
  refine inRange_unpack_pack ?_
  generalize x.toModel.unpack = u at hx canonical ⊢
  generalize y.toModel.unpack = v at hy ⊢
  rcases v with _ | _ | s' | ⟨s', m', e', hm'⟩
  case notANumber => cases hy
  case infinity => cases hy
  case zero =>
    obtain ⟨-, rfl, -⟩ := Value.finite.inj hy
    omega
  case finite =>
    obtain ⟨-, rfl, rfl⟩ := Value.finite.inj hy
    rcases u with _ | _ | s | ⟨s, m, e, hm⟩
    case notANumber => exact hx.elim
    case infinity => exact hx.elim
    case zero => trivial
    case finite => exact inRange_div canonical.1 hx hlong he

theorem isFinite_ofBits {b : UInt64} (h : b.toNat / twoTo 52 % 2048 ≠ 2047) :
    isFinite (Float.ofBits b) = true := by
  rw [isFinite_iff_inRange]
  refine inRange_unpack_pack ((inRange_unpack_iff _).2 fun hset => h ?_)
  have hnat := congrArg BitVec.toNat hset
  rwa [toNat_unpackExponent] at hnat

end PredictiveScaling.Decimal
