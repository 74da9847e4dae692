import Mathlib.Algebra.BigOperators.Ring.Finset
import Mathlib.Data.Rat.Floor
import Mathlib.Tactic.IntervalCases
import Mathlib.Tactic.NormNum
import Mathlib.Tactic.Ring
import PredictiveScaling.Proofs.Forecast.Course

/-!
# Smoothing without rounding

Over the rationals smoothing reproduces what it is made for, whatever the rates: a series that
repeats its first season goes on with that season, and one that follows a line, with seasons of one
point, goes on along the line. In both cases the description never changes but for the level of the
line, so nothing depends on how quickly it would change.

All that is done to a series is linear. So neither the unit of a metric matters to its forecast nor
its zero point, since what is the same at all points repeats its first season.
-/
namespace PredictiveScaling

/-- Rationals: nothing is rounded. -/
instance : Scalar ℚ where
  ofNat n := n
  ofInt i := i
  sumStart := 0
  isZero x := x == 0
  ceilCount x := if x ≤ 0 then 0 else Int32.ofInt (min ⌈x⌉ 2147483647)

namespace Smoothing

theorem total_eq_sum (n : Nat) (x : Nat → ℚ) : total n x = ∑ i ∈ Finset.range n, x i :=
  List.sum_eq_foldl.symm

section Follow

variable (p : Smoothing ℚ) (c : Course ℚ) (t : Nat) (v : ℚ)

theorem level_follow : (c.follow p t v).level =
    p.alpha * (v - c.seasonal (t % p.seasonLength)) + (1 - p.alpha) * (c.level + c.trend) :=
  rfl

theorem trend_follow : (c.follow p t v).trend =
    p.beta * ((c.follow p t v).level - c.level) + (1 - p.beta) * c.trend :=
  rfl

theorem seasonal_follow (i : Nat) : (c.follow p t v).seasonal i =
    if i = t % p.seasonLength then
      p.gamma * (v - (c.follow p t v).level) + (1 - p.gamma) * c.seasonal (t % p.seasonLength)
    else c.seasonal i :=
  rfl

theorem value_eq (length h : Nat) : c.value p length h =
    c.level + (h + 1 : ℕ) * c.trend + c.seasonal ((length + h) % p.seasonLength) :=
  rfl

end Follow

variable {p : Smoothing ℚ} {x y : Nat → ℚ} {season seasons : Nat}

/-! ## Series that repeat their first season -/

section Periodic

variable (periodic : ∀ t, x t = x (t % season))
include periodic

theorem average_of_periodic (j : Nat) : average season x j = average season x 0 := by
  have same : (fun i => x (season * j + i)) = fun i => x (season * 0 + i) := by
    funext i
    rw [periodic, Nat.mul_add_mod, Nat.mul_zero, Nat.zero_add, ← periodic]
  rw [average, average, same]

/-- Each position deviates from the average of any season by the same. -/
theorem startSeasonal_of_periodic (hne : seasons ≠ 0) (i : Nat) :
    startSeasonal season seasons x i = x i - average season x 0 := by
  have same : ∀ j ∈ Finset.range seasons,
      x (season * j + i) - average season x j = x i - average season x 0 := by
    intro j _
    rw [average_of_periodic periodic j, periodic, Nat.mul_add_mod, ← periodic]
  have hcast : (seasons : ℚ) ≠ 0 := Nat.cast_ne_zero.2 hne
  rw [startSeasonal, total_eq_sum, Finset.sum_congr rfl same, Finset.sum_const, Finset.card_range,
    nsmul_eq_mul]
  exact mul_div_cancel_left₀ _ hcast

/-- From one season to the next nothing changes. -/
theorem startTrend_of_periodic : startTrend season x = 0 := by
  have none : ∀ i ∈ Finset.range season, (x (i + season) - x i) / Scalar.ofNat season = 0 := by
    intro i _
    rw [periodic (i + season), Nat.add_mod_right, ← periodic, sub_self, zero_div]
  rw [startTrend, total_eq_sum, Finset.sum_eq_zero none, zero_div]

end Periodic

/-- The description of a series that repeats its first season stays the same: the level is the
average, there is no trend, and the components are the deviations from the average. -/
theorem course_of_periodic (hne : seasons ≠ 0) (periodic : ∀ t, x t = x (t % p.seasonLength))
    (t : Nat) : p.course seasons x t =
      ⟨average p.seasonLength x 0, 0, fun i => x i - average p.seasonLength x 0⟩ := by
  induction t with
  | zero =>
    have hseasonal := startSeasonal_of_periodic periodic hne
    ext
    · simp only [course, Course.start, hseasonal]
      ring
    · exact startTrend_of_periodic periodic
    · exact hseasonal _
  | succ t ih =>
    -- The level stays where it is, and with it the trend and the component that is moved.
    have hlevel : (p.course seasons x (t + 1)).level = average p.seasonLength x 0 := by
      rw [course, level_follow, ih]
      dsimp only
      rw [← periodic]
      ring
    ext i
    · exact hlevel
    · rw [course] at hlevel ⊢
      rw [trend_follow, hlevel, ih]
      ring
    · rw [course] at hlevel ⊢
      rw [seasonal_follow, hlevel, ih]
      split
      · next hi =>
        dsimp only
        rw [hi, ← periodic]
        ring
      · rfl

/-! ## Series along a line -/

/-- With seasons of one point there are no components, and a series along a line has the slope of
the line for its trend. -/
theorem course_of_line (seasons : Nat) (one : p.seasonLength = 1) {a b : ℚ}
    (line : ∀ t : ℕ, x t = a + b * t) (t : Nat) :
    (p.course seasons x t).level = a + b * t ∧ (p.course seasons x t).trend = b ∧
      (p.course seasons x t).seasonal 0 = 0 := by
  induction t with
  | zero =>
    have hseasonal : startSeasonal 1 seasons x 0 = 0 := by
      have none : ∀ j ∈ Finset.range seasons, x (1 * j + 0) - average 1 x j = 0 := by
        intro j _
        simp [average, total_eq_sum, Scalar.ofNat]
      rw [startSeasonal, total_eq_sum, Finset.sum_eq_zero none, zero_div]
    refine ⟨?_, ?_, ?_⟩
    · simp [course, Course.start, one, hseasonal, line]
    · simp [course, Course.start, one, startTrend, total_eq_sum, line, Scalar.ofNat]
    · simp [course, Course.start, one, hseasonal]
  | succ t ih =>
    obtain ⟨level, trend, seasonal⟩ := ih
    -- All points stand at the one position of a season.
    have hmod : (t + 1) % p.seasonLength = 0 := by rw [one, Nat.mod_one]
    have hlevel : (p.course seasons x (t + 1)).level = a + b * (t + 1 : ℕ) := by
      rw [course, level_follow, hmod, level, trend, seasonal, line]
      push_cast
      ring
    refine ⟨hlevel, ?_, ?_⟩
    · rw [course] at hlevel ⊢
      rw [trend_follow, hlevel, level, trend]
      push_cast
      ring
    · rw [course] at hlevel ⊢
      rw [seasonal_follow, hmod, if_pos rfl, hlevel, seasonal, line]
      ring

/-! ## Forecasts -/

theorem value_of_periodic (hne : seasons ≠ 0) (periodic : ∀ t, x t = x (t % p.seasonLength))
    (t length h : Nat) : (p.course seasons x t).value p length h = x (length + h) := by
  rw [value_eq, course_of_periodic hne periodic]
  dsimp only
  rw [← periodic]
  ring

theorem value_of_line (one : p.seasonLength = 1) {a b : ℚ} (line : ∀ t : ℕ, x t = a + b * t)
    {length : Nat} (pos : 1 ≤ length) (h : Nat) :
    (p.course seasons x (length - 1)).value p length h = x (length + h) := by
  obtain ⟨level, trend, seasonal⟩ := course_of_line seasons one line (length - 1)
  have hmod : (length + h) % p.seasonLength = 0 := by rw [one, Nat.mod_one]
  rw [value_eq, hmod, level, trend, seasonal, line]
  push_cast [Nat.cast_sub pos]
  ring

theorem forecast?_eq_of_value {length : Nat} (pos : 0 < p.seasonLength)
    (two : 2 * p.seasonLength ≤ length) {f : Nat → ℚ}
    (h : ∀ i, (p.course (length / p.seasonLength) x (length - 1)).value p length i = f i) :
    p.forecast? (sampled length x) = some (sampled p.lookForward f) := by
  rw [forecast?_sampled pos two, funext h]

/-- Over seasons of any length, and any number of them but one: what repeats its first season goes
on with that season, and with seasons of one point what follows a line goes on along the line. The
rates do not matter. -/
theorem forecast?_reproduces (p : Smoothing ℚ) {series : List ℚ} {seasons : Nat}
    (pos : 0 < p.seasonLength) (two : 2 ≤ seasons)
    (whole : series.length = seasons * p.seasonLength) :
    ((∀ t < series.length, series[t]? = series[t % p.seasonLength]?) →
      ∃ values, p.forecast? series = some values ∧ values.length = p.lookForward ∧
        ∀ h < p.lookForward,
          values[h]? = series[(series.length + h) % p.seasonLength]?) ∧
    ∀ a b : ℚ, p.seasonLength = 1 → (∀ t < series.length, series[t]? = some (a + b * t)) →
      ∃ values, p.forecast? series = some values ∧ values.length = p.lookForward ∧
        ∀ h < p.lookForward, values[h]? = some (a + b * (series.length + h)) := by
  have htwo : 2 * p.seasonLength ≤ series.length := whole ▸ Nat.mul_le_mul_right _ two
  have hseasons : series.length / p.seasonLength ≠ 0 := (Nat.div_pos (by omega) pos).ne'
  constructor
  · intro periodic
    have hmod : ∀ t, t % p.seasonLength < series.length := by
      intro t
      have hlt := Nat.mod_lt t pos
      omega
    have hseries := eq_sampled (x := fun t => series.getD (t % p.seasonLength) 0) fun t ht => by
      rw [periodic t ht, getElem?_eq_some_getD (hmod t) 0]
    have hforecast := forecast?_eq_of_value pos htwo (value_of_periodic
      (x := fun t => series.getD (t % p.seasonLength) 0) hseasons
      (fun t => by rw [Nat.mod_mod]) _ _)
    rw [← hseries] at hforecast
    refine ⟨_, hforecast, length_sampled _ _, fun h hh => ?_⟩
    rw [getElem?_sampled hh, getElem?_eq_some_getD (hmod _) 0]
  · intro a b one line
    have hseries := eq_sampled line
    have hforecast := forecast?_eq_of_value pos htwo (value_of_line
      (x := fun t : ℕ => a + b * t) one (fun _ => rfl) (by omega))
    rw [← hseries] at hforecast
    refine ⟨_, hforecast, length_sampled _ _, fun h hh => ?_⟩
    rw [getElem?_sampled hh]
    push_cast
    rfl

/-- Two seasons of two points, and three points on a line. -/
theorem forecast?_reproduces_twoSeasons :
    let p : Smoothing ℚ := ⟨2, 3, 1 / 2, 1 / 3, 1 / 4⟩
    let q : Smoothing ℚ := ⟨1, 2, 1 / 2, 1 / 3, 1 / 4⟩
    p.forecast? [1, 3, 1, 3] = some [1, 3, 1] ∧ q.forecast? [5, 7, 9] = some [11, 13] := by
  intro p q
  have wholeP : [(1 : ℚ), 3, 1, 3].length = 2 * p.seasonLength := rfl
  have wholeQ : [(5 : ℚ), 7, 9].length = 3 * q.seasonLength := rfl
  obtain ⟨repeated, hrepeated, hlength, hvalue⟩ :=
    (forecast?_reproduces p (by decide) (by decide) wholeP).1 fun t ht => by
      simp only [List.length_cons, List.length_nil] at ht
      interval_cases t <;> simp [p]
  obtain ⟨line, hline, hlength', hvalue'⟩ :=
    (forecast?_reproduces q (by decide) (by decide) wholeQ).2 5 2 rfl fun t ht => by
      simp only [List.length_cons, List.length_nil] at ht
      interval_cases t <;> norm_num
  constructor
  · obtain ⟨u, v, w, rfl⟩ := List.length_eq_three.1 hlength
    have h0 := hvalue 0 (by decide)
    have h1 := hvalue 1 (by decide)
    have h2 := hvalue 2 (by decide)
    simp [p] at h0 h1 h2
    rw [hrepeated, h0, h1, h2]
  · obtain ⟨u, v, rfl⟩ := List.length_eq_two.1 hlength'
    have h0 := hvalue' 0 (by decide)
    have h1 := hvalue' 1 (by decide)
    norm_num at h0 h1
    rw [hline, h0, h1]

/-! ## Series put together -/

section Mix

variable (c d : ℚ)

/-- So much of the one series and so much of the other. -/
def mix (x y : Nat → ℚ) : Nat → ℚ := fun t => c * x t + d * y t

/-- So much of the one description and so much of the other. -/
def Course.mix (a b : Course ℚ) : Course ℚ where
  level := c * a.level + d * b.level
  trend := c * a.trend + d * b.trend
  seasonal := Smoothing.mix c d a.seasonal b.seasonal

theorem total_mix (n : Nat) (x y : Nat → ℚ) :
    total n (mix c d x y) = c * total n x + d * total n y := by
  simp only [total_eq_sum, mix, Finset.sum_add_distrib, Finset.mul_sum]

theorem average_mix (j : Nat) : average season (mix c d x y) j =
    mix c d (average season x) (average season y) j := by
  have parts : total season (fun i => mix c d x y (season * j + i)) =
      c * total season (fun i => x (season * j + i)) +
        d * total season (fun i => y (season * j + i)) :=
    total_mix c d season _ _
  simp only [average, mix] at parts ⊢
  rw [parts]
  ring

theorem startTrend_mix : startTrend season (mix c d x y) =
    c * startTrend season x + d * startTrend season y := by
  have parts : (fun i => (mix c d x y (i + season) - mix c d x y i) / (Scalar.ofNat season : ℚ)) =
      mix c d (fun i => (x (i + season) - x i) / Scalar.ofNat season)
        fun i => (y (i + season) - y i) / Scalar.ofNat season := by
    funext i
    simp only [mix]
    ring
  simp only [startTrend, parts, total_mix]
  ring

theorem startSeasonal_mix : startSeasonal season seasons (mix c d x y) =
    mix c d (startSeasonal season seasons x) (startSeasonal season seasons y) := by
  funext i
  have parts : (fun j => mix c d x y (season * j + i) - average season (mix c d x y) j) =
      mix c d (fun j => x (season * j + i) - average season x j)
        fun j => y (season * j + i) - average season y j := by
    funext j
    simp only [average_mix, mix]
    ring
  rw [startSeasonal, parts, total_mix]
  simp only [startSeasonal, mix]
  ring

theorem start_mix : Course.start season seasons (mix c d x y) =
    Course.mix c d (.start season seasons x) (.start season seasons y) := by
  ext
  · simp only [Course.start, Course.mix, startSeasonal_mix, mix]
    ring
  · exact startTrend_mix c d
  · exact congrFun (startSeasonal_mix c d) _

theorem follow_mix (a b : Course ℚ) (t : Nat) (u v : ℚ) :
    (Course.mix c d a b).follow p t (c * u + d * v) =
      Course.mix c d (a.follow p t u) (b.follow p t v) := by
  have hlevel : ((Course.mix c d a b).follow p t (c * u + d * v)).level =
      c * (a.follow p t u).level + d * (b.follow p t v).level := by
    simp only [level_follow, Course.mix, mix]
    ring
  ext i
  · exact hlevel
  · rw [trend_follow, hlevel]
    simp only [Course.mix, trend_follow]
    ring
  · rw [seasonal_follow, hlevel]
    simp only [Course.mix, mix, seasonal_follow]
    split <;> ring

/-- Two series that are put together are described by their descriptions put together. -/
theorem course_mix (t : Nat) : p.course seasons (mix c d x y) t =
    Course.mix c d (p.course seasons x t) (p.course seasons y t) := by
  induction t with
  | zero => exact start_mix c d
  | succ t ih =>
    rw [course, ih]
    exact follow_mix c d _ _ _ _ _

theorem value_mix (a b : Course ℚ) (length h : Nat) : (Course.mix c d a b).value p length h =
    c * a.value p length h + d * b.value p length h := by
  simp only [value_eq, Course.mix, mix]
  ring

end Mix

/-- Forecasts are linear in their series, and what is added to all points of a series is added to
all values of its forecast. Of the checks of a model (`SeasonalParams.seasons_of_validate`) only
those of the lengths matter. -/
theorem forecast?_linear (p : Smoothing ℚ) {x y : List ℚ} (pos : 0 < p.seasonLength)
    (two : 2 * p.seasonLength ≤ x.length) (same : y.length = x.length) :
    ∃ fx fy, p.forecast? x = some fx ∧ p.forecast? y = some fy ∧
      fx.length = p.lookForward ∧ fy.length = p.lookForward ∧
      (∀ c d : ℚ, p.forecast? (List.zipWith (fun u v => c * u + d * v) x y) =
        some (List.zipWith (fun u v => c * u + d * v) fx fy)) ∧
      ∀ k : ℚ, p.forecast? (x.map (· + k)) = some (fx.map (· + k)) := by
  have hseasons : x.length / p.seasonLength ≠ 0 := (Nat.div_pos (by omega) pos).ne'
  have hx : x = sampled x.length fun i => x.getD i 0 :=
    eq_sampled fun _ hi => getElem?_eq_some_getD hi 0
  have hy : y = sampled y.length fun i => y.getD i 0 :=
    eq_sampled fun _ hi => getElem?_eq_some_getD hi 0
  rw [same] at hy
  generalize x.length = length at *
  generalize (fun i => x.getD i 0) = f at hx
  generalize (fun i => y.getD i 0) = g at hy
  subst hx hy
  refine ⟨_, _, forecast?_sampled pos two f, forecast?_sampled pos two g, length_sampled _ _,
    length_sampled _ _, fun c d => ?_, fun k => ?_⟩
  · have hmix : (fun i => c * f i + d * g i) = mix c d f g := rfl
    rw [zipWith_sampled, zipWith_sampled, hmix]
    refine forecast?_eq_of_value pos two fun h => ?_
    rw [course_mix, value_mix]
  · -- Ones repeat themselves, so the forecast of so many of them is as many.
    have hmix : (fun i => f i + k) = mix 1 k f fun _ => 1 := by
      funext i
      simp only [mix]
      ring
    rw [map_sampled, map_sampled, hmix]
    refine forecast?_eq_of_value pos two fun h => ?_
    rw [course_mix, value_mix, value_of_periodic (x := fun _ => 1) hseasons fun _ => rfl]
    ring

/-- Two metrics added up in other units, and one that is counted from another zero point. -/
theorem forecast?_linear_twoSeasons :
    let p : Smoothing ℚ := ⟨2, 3, 1 / 2, 1 / 3, 1 / 4⟩
    ∃ fx fy, p.forecast? [1, 3, 2, 5] = some fx ∧ p.forecast? [0, 1, 0, 2] = some fy ∧
      p.forecast? [2, 9, 4, 16] = some (List.zipWith (fun u v => 2 * u + 3 * v) fx fy) ∧
      p.forecast? [11, 13, 12, 15] = some (fx.map (· + 10)) := by
  intro p
  obtain ⟨fx, fy, hx, hy, -, -, linear, shifted⟩ :=
    forecast?_linear p (x := [1, 3, 2, 5]) (y := [0, 1, 0, 2]) (by decide) (by decide) rfl
  have added := linear 2 3
  have raised := shifted 10
  norm_num [List.zipWith] at added raised
  exact ⟨fx, fy, hx, hy, added, raised⟩

end Smoothing

end PredictiveScaling
