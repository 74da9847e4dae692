import PredictiveScaling.Proofs.Decimal.Exact
import PredictiveScaling.Proofs.Forecast.Course

/-!
# Which parameters are accepted

The samples of a model have to cover two of its seasons. The double of the season is taken in a
word. For a season of `2 ^ 63` and more it wraps or the program stops, as the build has it, and in
neither case is the season refused for its length. What is accepted where it wraps is exactly known
(`SeasonalParams.validate_eq_ok_iff`): every check holds of the numbers themselves, except that for
such a season the samples cover one season or none. Smoothing reads by position, and every position
is within the series if two seasons are covered. So there is an accepted season that leaves no
forecast and no error either (`SeasonalParams.accepted_covers_iff`).
-/
namespace PredictiveScaling

namespace Smoothing

variable {α : Type} [Scalar α] {season : Nat} {series : List α}

/-! ## Series that are too short -/

/-- One gap leaves no list. -/
theorem mapM_eq_none_of_mem {β γ : Type} {f : β → Option γ} {l : List β} {b : β} (hb : b ∈ l)
    (h : f b = none) : l.mapM f = none := by
  induction l with
  | nil => cases hb
  | cons c l ih =>
    rw [List.mapM_cons]
    rcases List.mem_cons.1 hb with rfl | hmem
    · rw [h]
      rfl
    · cases f c with
      | none => rfl
      | some y =>
        rw [ih hmem]
        rfl

/-- A change to the second season is missing where the series ends within it. -/
theorem initialTrend?_eq_none (one : season ≤ series.length) (short : series.length < 2 * season) :
    initialTrend? series season = none := by
  have hend : series[series.length - season + season]? = none :=
    List.getElem?_eq_none (by omega)
  have hmem : series.length - season ∈ List.range season := List.mem_range.2 (by omega)
  rw [initialTrend?, sumOver?, mapM_eq_none_of_mem hmem]
  · rfl
  · rw [hend]
    rfl

theorem initial?_eq_none (short : ¬(0 < season ∧ 2 * season ≤ series.length)) :
    initial? series season = none := by
  rw [initial?]
  split
  · rfl
  next hwhole =>
  obtain ⟨hseason, hone⟩ := not_or.1 hwhole
  have hone : season ≤ series.length := Nat.le_of_not_lt fun hlt => hone (Nat.div_eq_of_lt hlt)
  rw [initialTrend?_eq_none hone (by omega)]
  cases initialSeasonals? series season with
  | none => rfl
  | some seasonals => rfl

/-- Two seasons are what a forecast needs, and no less. -/
theorem forecast?_eq_none_iff {p : Smoothing α} (series : List α) : p.forecast? series = none ↔
    ¬(0 < p.seasonLength ∧ 2 * p.seasonLength ≤ series.length) := by
  constructor
  · rintro hnone ⟨pos, two⟩
    have hlength : 0 < series.length := by omega
    have hseries : series = sampled series.length fun i => series.getD i series[0] :=
      eq_sampled fun _ hi => getElem?_eq_some_getD hi series[0]
    rw [hseries, forecast?_sampled pos two] at hnone
    cases hnone
  · intro short
    rw [forecast?, initial?_eq_none short]
    rfl

end Smoothing

namespace SeasonalParams

variable {p : SeasonalParams} {b : Buffer}

/-! ## The checks as statements about numbers -/

/-- A rate is a number between 0 and 1. -/
def IsRate (v : Float) : Prop := ∃ q, Decimal.rational? v = some q ∧ 0 ≤ q ∧ q ≤ 1

theorem checkRate_eq_ok_iff (name : String) (v : Float) :
    checkRate name v = .ok () ↔ IsRate v := by
  rw [IsRate, ← Decimal.between_zero_one_iff, checkRate]
  split
  next h => simpa using h
  next h => simpa using h

theorem toNat_pos_iff {n : UInt64} : 0 < n.toNat ↔ n ≠ 0 := by
  rw [Nat.pos_iff_ne_zero, ne_eq, ne_eq, ← UInt64.toNat_inj, UInt64.toNat_zero]

/-- The double of a word is a word. -/
theorem toNat_double (season : UInt64) :
    (2 * season).toNat = 2 * season.toNat % 2 ^ 64 :=
  UInt64.toNat_mul 2 season

/-- What passes the checks, as numbers: the double of the season is one that may have wrapped. -/
theorem validate_eq_ok_iff (p : SeasonalParams) : p.validate = .ok () ↔
    0 < p.seasonLength.toNat ∧ 0 < p.lookForward.toNat ∧
      2 * p.seasonLength.toNat % 2 ^ 64 ≤ p.lookBack.toNat ∧
      p.seasonLength.toNat ∣ p.lookBack.toNat ∧
      IsRate p.alpha ∧ IsRate p.beta ∧ IsRate p.gamma := by
  have hcovers : ¬ p.lookBack < 2 * p.seasonLength ↔
      2 * p.seasonLength.toNat % 2 ^ 64 ≤ p.lookBack.toNat := by
    rw [UInt64.lt_iff_toNat_lt, toNat_double, Nat.not_lt]
  have hwhole : p.lookBack % p.seasonLength = 0 ↔ p.seasonLength.toNat ∣ p.lookBack.toNat := by
    rw [← UInt64.toNat_inj, UInt64.toNat_mod, UInt64.toNat_zero, Nat.dvd_iff_mod_eq_zero]
  have hrates : (do
      checkRate "alpha" p.alpha
      checkRate "beta" p.beta
      checkRate "gamma" p.gamma : Except ModelFault Unit) = .ok () ↔
        IsRate p.alpha ∧ IsRate p.beta ∧ IsRate p.gamma := by
    rw [← checkRate_eq_ok_iff "alpha", ← checkRate_eq_ok_iff "beta", ← checkRate_eq_ok_iff "gamma"]
    cases checkRate "alpha" p.alpha with
    | error fault => simp [bind, Except.bind]
    | ok => cases checkRate "beta" p.beta with
      | error fault => simp [bind, Except.bind]
      | ok => simp [bind, Except.bind]
  rw [toNat_pos_iff, toNat_pos_iff, ← hcovers, ← hwhole, ← hrates, validate]
  split
  next h => simp [h]
  next hseason =>
  split
  next h => simp [h]
  next hforward =>
  split
  next h => simp [h]
  next htwo =>
  split
  next h => simp [h]
  next heven => exact ⟨fun h => ⟨hseason, hforward, htwo, not_not.1 heven, h⟩, fun h => h.2.2.2.2⟩

/-! ## Seasons that wrap -/

/-- Two seasons are covered, unless their number of samples is beyond all words. -/
theorem covers_iff (h : p.validate = .ok ()) :
    2 * p.seasonLength.toNat ≤ p.lookBack.toNat ↔ p.seasonLength.toNat < 2 ^ 63 := by
  have hword : p.lookBack.toNat < 2 ^ 64 := p.lookBack.toNat_lt
  have hcovers := ((validate_eq_ok_iff p).1 h).2.2.1
  constructor
  · intro htwo
    omega
  · intro hlt
    rwa [Nat.mod_eq_of_lt (by omega)] at hcovers

theorem overflows_iff : p.overflows = true ↔
    0 < p.seasonLength.toNat ∧ 0 < p.lookForward.toNat ∧ 2 ^ 63 ≤ p.seasonLength.toNat := by
  have hsize : UInt64.size ≤ 2 * p.seasonLength.toNat ↔ 2 ^ 63 ≤ p.seasonLength.toNat := by
    rw [UInt64.size]
    omega
  rw [overflows, decide_eq_true_iff, toNat_pos_iff, toNat_pos_iff, hsize]

/-- A build stops where it does not let the double of the season wrap. -/
theorem validate?_eq_none_iff {o : Overflow} :
    p.validate? o = none ↔ o = .stops ∧ p.overflows = true := by
  rw [validate?]
  split
  · next stops => exact iff_of_true rfl stops
  · next goesOn => exact iff_of_false nofun goesOn

theorem validate?_eq_some_iff {o : Overflow} {r : Except ModelFault Unit} :
    p.validate? o = some r ↔ ¬(o = .stops ∧ p.overflows = true) ∧ p.validate = r := by
  rw [validate?]
  split
  · next stops => exact iff_of_false nofun fun h => h.1 stops
  · next goesOn => simp only [Option.some.injEq, goesOn, not_false_eq_true, true_and]

/-! ## Forecasts under accepted parameters -/

/-- Where samples are missing that is the answer. -/
theorem predict?_of_lt (short : b.size < p.lookBack.toNat) :
    p.predict? b = some (.error (.insufficientData b.size p.lookBack.toNat)) := by
  have hnone : b.window? p.lookBack.toNat = none := if_neg (Nat.not_le.2 short)
  rw [predict?, Buffer.values?, hnone]
  rfl

/-- With all samples there is no answer where the series does not cover two seasons. -/
theorem predict?_eq_none_iff (p : SeasonalParams) (b : Buffer) :
    p.predict? b = none ↔ p.lookBack.toNat ≤ b.size ∧
      ¬(0 < p.seasonLength.toNat ∧ 2 * p.seasonLength.toNat ≤ p.lookBack.toNat) := by
  by_cases enough : p.lookBack.toNat ≤ b.size
  · obtain ⟨xs, hxs, hlength⟩ := Buffer.exists_values? enough
    have hforecast := Smoothing.forecast?_eq_none_iff (p := p.smoothing) xs
    rw [hlength] at hforecast
    rw [predict?, hxs]
    simp only [Option.map_eq_none_iff, hforecast, enough, true_and]
    rfl
  · rw [predict?_of_lt (Nat.not_le.1 enough)]
    exact iff_of_false (Option.some_ne_none _) fun h => enough h.1

/-- A build that wraps has no answer where smoothing has none. One that stops has none either where
it would get to a horizon beyond all words. -/
theorem predictIn?_eq_none_iff {o : Overflow} : p.predictIn? o b = none ↔
    p.predict? b = none ∨ o = .stops ∧ p.lookBack.toNat ≤ b.size ∧
      2 ^ 64 ≤ p.lookBack.toNat + p.lookForward.toNat := by
  rw [predictIn?, UInt64.size]
  split
  · next stops => exact iff_of_true rfl (.inr stops)
  · next goesOn => exact (or_iff_left goesOn).symm

/-- Accepted parameters have a season and a horizon, whole seasons of samples and rates between 0
and 1. They cover two seasons exactly if the season does not wrap when it is doubled. One that does
leaves no answer, since smoothing reads outside, over every buffer that has the samples. A build
that stops accepts none of these, since it stops in the check, but stops in the forecast where the
position of the horizon would wrap. -/
theorem accepted_covers_iff {o : Overflow} (h : p.validate? o = some (.ok ())) :
    0 < p.seasonLength.toNat ∧ 0 < p.lookForward.toNat ∧
      p.seasonLength.toNat ∣ p.lookBack.toNat ∧
      IsRate p.alpha ∧ IsRate p.beta ∧ IsRate p.gamma ∧
      (2 * p.seasonLength.toNat ≤ p.lookBack.toNat ↔ p.seasonLength.toNat < 2 ^ 63) ∧
      (∀ b : Buffer, p.predictIn? o b = none ↔ p.lookBack.toNat ≤ b.size ∧
        (2 ^ 63 ≤ p.seasonLength.toNat ∨
          o = .stops ∧ 2 ^ 64 ≤ p.lookBack.toNat + p.lookForward.toNat)) ∧
      (o = .stops → p.seasonLength.toNat < 2 ^ 63) := by
  obtain ⟨goesOn, h⟩ := validate?_eq_some_iff.1 h
  obtain ⟨hseason, hforward, -, hwhole, halpha, hbeta, hgamma⟩ := (validate_eq_ok_iff p).1 h
  refine ⟨hseason, hforward, hwhole, halpha, hbeta, hgamma, covers_iff h, fun b => ?_, ?_⟩
  · rw [predictIn?_eq_none_iff, predict?_eq_none_iff, covers_iff h, and_left_comm, ← and_or_left]
    simp only [hseason, true_and, Nat.not_lt]
  · rintro rfl
    exact Nat.not_le.1 fun long => goesOn ⟨rfl, overflows_iff.2 ⟨hseason, hforward, long⟩⟩

/-- The double of this season is zero, so that no sample at all covers it twice. -/
def wrapping : SeasonalParams := ⟨9223372036854775808, 0, 1, 0.5, 0.5, 0.5⟩

/-- It is accepted where products wrap and leaves no answer over an empty buffer, and where they do
not the program stops. -/
theorem accepted_covers_iff_wrapping : wrapping.validate? .wraps = some (.ok ()) ∧
    ¬ 2 * wrapping.seasonLength.toNat ≤ wrapping.lookBack.toNat ∧
      wrapping.predictIn? .wraps (.empty 0) = none ∧ wrapping.validate? .stops = none := by
  have half : IsRate 0.5 := (Decimal.between_zero_one_iff 0.5).1 (by decide +kernel)
  have accepted : wrapping.validate? .wraps = some (.ok ()) :=
    validate?_eq_some_iff.2 ⟨nofun, (validate_eq_ok_iff wrapping).2 ⟨by decide +kernel,
      by decide +kernel, by decide +kernel, by decide +kernel, half, half, half⟩⟩
  obtain ⟨-, -, -, -, -, -, hcovers, hanswer, -⟩ := accepted_covers_iff accepted
  exact ⟨accepted, fun h => absurd (hcovers.1 h) (by decide +kernel),
    (hanswer _).2 ⟨by decide +kernel, .inl (by decide +kernel)⟩,
    validate?_eq_none_iff.2 ⟨rfl, by decide +kernel⟩⟩

end SeasonalParams

end PredictiveScaling
