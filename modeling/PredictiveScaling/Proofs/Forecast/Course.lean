import PredictiveScaling.Forecast.Seasonal

/-!
# The course of a smoothed series

Smoothing reads the series and the seasonal components by position. Of a series that covers two
seasons no position outside is ever read. So such a series always has a forecast, and what is told
of it point by point is a plain recurrence (`Smoothing.course`): the description at the first point
comes from averages, and each further point moves the level, the trend and one component. All that
the forecast says is read off the description at the last point (`Smoothing.forecast?_sampled`).
Two seasons are what a model is checked for, so one that passed has a forecast wherever it has its
samples (`SeasonalParams.exists_predict?`).
-/
namespace PredictiveScaling

section Sampled

variable {α β : Type} {n : Nat}

/-- A series of `n` values. -/
def sampled (n : Nat) (x : Nat → α) : List α := (List.range n).map x

@[simp] theorem length_sampled (n : Nat) (x : Nat → α) : (sampled n x).length = n := by
  rw [sampled, List.length_map, List.length_range]

theorem getElem?_sampled {i : Nat} (h : i < n) (x : Nat → α) : (sampled n x)[i]? = some (x i) := by
  rw [sampled, List.getElem?_map, List.getElem?_range h, Option.map_some]

/-- A series is known by its values. -/
theorem eq_sampled {series : List α} {x : Nat → α}
    (h : ∀ i < series.length, series[i]? = some (x i)) : series = sampled series.length x := by
  refine List.ext_getElem? fun i => ?_
  by_cases hi : i < series.length
  · rw [h i hi, getElem?_sampled hi]
  · have hle : series.length ≤ i := Nat.not_lt.1 hi
    rw [List.getElem?_eq_none hle, List.getElem?_eq_none (by rwa [length_sampled])]

theorem getElem?_eq_some_getD {series : List α} {i : Nat} (h : i < series.length) (other : α) :
    series[i]? = some (series.getD i other) := by
  rw [List.getD_eq_getElem?_getD, List.getElem?_eq_getElem h, Option.getD_some]

theorem map_sampled {γ : Type} (f : α → γ) (n : Nat) (x : Nat → α) :
    (sampled n x).map f = sampled n fun i => f (x i) :=
  List.map_map

theorem zipWith_sampled {γ δ : Type} (f : α → γ → δ) (n : Nat) (x : Nat → α) (y : Nat → γ) :
    List.zipWith f (sampled n x) (sampled n y) = sampled n fun i => f (x i) (y i) := by
  rw [sampled, sampled, List.zipWith_map, List.zipWith_self, sampled]

theorem set_sampled (n i : Nat) (x : Nat → α) (v : α) :
    (sampled n x).set i v = sampled n fun j => if j = i then v else x j := by
  refine List.ext_getElem? fun j => ?_
  by_cases h : j < n
  · rw [getElem?_sampled h, List.getElem?_set, length_sampled, getElem?_sampled h]
    by_cases hij : i = j
    · rw [if_pos hij, if_pos (hij ▸ h), if_pos hij.symm]
    · rw [if_neg hij, if_neg (Ne.symm hij)]
  · have hle : n ≤ j := Nat.not_lt.1 h
    rw [List.getElem?_eq_none (by rwa [List.length_set, length_sampled]),
      List.getElem?_eq_none (by rwa [length_sampled])]

/-- The values behind the first one. -/
theorem drop_one_sampled (n : Nat) (x : Nat → α) :
    (sampled n x).drop 1 = sampled (n - 1) fun i => x (1 + i) := by
  refine List.ext_getElem? fun i => ?_
  rw [List.getElem?_drop]
  by_cases h : 1 + i < n
  · rw [getElem?_sampled h, getElem?_sampled (by omega)]
  · rw [List.getElem?_eq_none (by rw [length_sampled]; omega),
      List.getElem?_eq_none (by rw [length_sampled]; omega)]

/-- Where nothing fails, going through a list is mapping it. -/
theorem mapM_eq_some_map {f : β → Option α} {g : β → α} {l : List β}
    (h : ∀ b ∈ l, f b = some (g b)) : l.mapM f = some (l.map g) := by
  induction l with
  | nil => rfl
  | cons b l ih =>
    rw [List.forall_mem_cons] at h
    rw [List.mapM_cons, h.1, ih h.2]
    rfl

theorem mapM_range_eq_sampled {f : Nat → Option α} {x : Nat → α} (h : ∀ i < n, f i = some (x i)) :
    (List.range n).mapM f = some (sampled n x) :=
  mapM_eq_some_map fun i hi => h i (List.mem_range.1 hi)

end Sampled

namespace Smoothing

variable {α : Type} [Scalar α]

/-! ## The description at the first point -/

/-- The sum of the first `n` values. -/
def total (n : Nat) (x : Nat → α) : α := Scalar.sum (sampled n x)

theorem sumOver?_eq {n : Nat} {f : Nat → Option α} {x : Nat → α} (h : ∀ i < n, f i = some (x i)) :
    sumOver? n f = some (total n x) := by
  rw [sumOver?, mapM_range_eq_sampled h]
  rfl

/-- The average change per step between the first two seasons. -/
def startTrend (season : Nat) (x : Nat → α) : α :=
  total season (fun i => (x (i + season) - x i) / Scalar.ofNat season) / Scalar.ofNat season

/-- The average of the season with this number. -/
def average (season : Nat) (x : Nat → α) (j : Nat) : α :=
  total season (fun i => x (season * j + i)) / Scalar.ofNat season

/-- The average deviation of a position from the averages of its seasons. -/
def startSeasonal (season seasons : Nat) (x : Nat → α) (i : Nat) : α :=
  total seasons (fun j => x (season * j + i) - average season x j) / Scalar.ofNat seasons

/-- A level and a trend, and the component of each position in a season. -/
@[ext]
structure Course (α : Type) where
  level : α
  trend : α
  seasonal : Nat → α

/-- The description of a series by its first whole seasons. -/
def Course.start (season seasons : Nat) (x : Nat → α) : Course α where
  level := x 0 - startSeasonal season seasons x 0
  trend := startTrend season x
  seasonal := startSeasonal season seasons x

/-- With the components of one season in a list. -/
def Course.toLevel (season : Nat) (c : Course α) : Level α :=
  ⟨c.level, c.trend, sampled season c.seasonal⟩

variable {season length : Nat}

/-- The positions of a whole season are within the series. -/
theorem position_lt {i j : Nat} (hi : i < season) (hj : j < length / season) :
    season * j + i < length := by
  have hsucc : season * (j + 1) ≤ season * (length / season) := Nat.mul_le_mul_left _ hj
  have hwhole : season * (length / season) ≤ length := Nat.mul_div_le length season
  rw [Nat.mul_add, Nat.mul_one] at hsucc
  omega

theorem seasonAverages?_sampled (season length : Nat) (x : Nat → α) :
    seasonAverages? (sampled length x) season =
      some (sampled (length / season) (average season x)) := by
  rw [seasonAverages?, length_sampled]
  refine mapM_range_eq_sampled fun j hj => ?_
  rw [sumOver?_eq fun i hi => getElem?_sampled (position_lt hi hj) x]
  rfl

theorem initialSeasonals?_sampled (season length : Nat) (x : Nat → α) :
    initialSeasonals? (sampled length x) season =
      some (sampled season (startSeasonal season (length / season) x)) := by
  rw [initialSeasonals?, seasonAverages?_sampled, length_sampled]
  refine mapM_range_eq_sampled fun i hi => ?_
  rw [sumOver?_eq (x := fun j => x (season * j + i) - average season x j)]
  · rfl
  · intro j hj
    rw [getElem?_sampled (position_lt hi hj), getElem?_sampled hj]
    rfl

theorem initialTrend?_sampled (two : 2 * season ≤ length) (x : Nat → α) :
    initialTrend? (sampled length x) season = some (startTrend season x) := by
  rw [initialTrend?, sumOver?_eq (x := fun i => (x (i + season) - x i) / Scalar.ofNat season)]
  · rfl
  · intro i hi
    rw [getElem?_sampled (by omega), getElem?_sampled (by omega)]
    rfl

/-- Two seasons are enough for a description. -/
theorem initial?_sampled (pos : 0 < season) (two : 2 * season ≤ length) (x : Nat → α) :
    initial? (sampled length x) season =
      some ((Course.start season (length / season) x).toLevel season) := by
  have hseasons : 0 < length / season := Nat.div_pos (by omega) pos
  rw [initial?, length_sampled, if_neg (by omega), initialSeasonals?_sampled,
    initialTrend?_sampled two, getElem?_sampled (by omega : 0 < length)]
  simp only [Option.bind_eq_bind, Option.bind_some, getElem?_sampled pos]
  rfl

/-! ## From point to point -/

variable {p : Smoothing α}

/-- The description after one more point `x`, at position `t`. -/
def Course.follow (p : Smoothing α) (c : Course α) (t : Nat) (x : α) : Course α :=
  let one : α := Scalar.ofNat 1
  let component := c.seasonal (t % p.seasonLength)
  let level := p.alpha * (x - component) + (one - p.alpha) * (c.level + c.trend)
  { level
    trend := p.beta * (level - c.level) + (one - p.beta) * c.trend
    seasonal := fun i =>
      if i = t % p.seasonLength then p.gamma * (x - level) + (one - p.gamma) * component
      else c.seasonal i }

/-- The description of a series with so many whole seasons at each of its points. -/
def course (p : Smoothing α) (seasons : Nat) (x : Nat → α) : Nat → Course α
  | 0 => .start p.seasonLength seasons x
  | t + 1 => (course p seasons x t).follow p (t + 1) (x (t + 1))

theorem follow?_toLevel (pos : 0 < p.seasonLength) (c : Course α) (t : Nat) (x : α) :
    p.follow? (c.toLevel p.seasonLength) t x = some ((c.follow p t x).toLevel p.seasonLength) := by
  simp only [follow?, Course.toLevel, getElem?_sampled (Nat.mod_lt t pos), set_sampled,
    Option.bind_eq_bind, Option.bind_some, Option.pure_def, Course.follow]

theorem followAll?_toLevel (pos : 0 < p.seasonLength) (seasons : Nat) (x : Nat → α) (n t : Nat) :
    p.followAll? ((p.course seasons x t).toLevel p.seasonLength) (t + 1)
        (sampled n fun i => x (t + 1 + i)) =
      some ((p.course seasons x (t + n)).toLevel p.seasonLength) := by
  induction n generalizing t with
  | zero => rfl
  | succ n ih =>
    have hcons : sampled (n + 1) (fun i => x (t + 1 + i)) =
        x (t + 1) :: sampled n fun i => x (t + 1 + 1 + i) := by
      rw [sampled, List.range_succ_eq_map, List.map_cons, List.map_map, sampled]
      congr 2
      funext i
      simp only [Function.comp_apply]
      congr 1
      omega
    rw [hcons, followAll?, follow?_toLevel pos, Option.bind_some]
    have hnext := ih (t + 1)
    rw [show t + 1 + n = t + (n + 1) by omega] at hnext
    exact hnext

/-! ## The forecast -/

/-- The value `h + 1` steps behind the end of a series of length `length`. -/
def Course.value (c : Course α) (p : Smoothing α) (length h : Nat) : α :=
  c.level + Scalar.ofNat (h + 1) * c.trend + c.seasonal ((length + h) % p.seasonLength)

/-- A series that covers two seasons has a forecast, which goes on from its last point. -/
theorem forecast?_sampled (pos : 0 < p.seasonLength) (two : 2 * p.seasonLength ≤ length)
    (x : Nat → α) : p.forecast? (sampled length x) = some (sampled p.lookForward
      ((p.course (length / p.seasonLength) x (length - 1)).value p length)) := by
  have hstart := initial?_sampled pos two x
  have hfollow := followAll?_toLevel pos (length / p.seasonLength) x (length - 1) 0
  simp only [Nat.zero_add] at hfollow
  rw [forecast?, hstart, drop_one_sampled, Option.bind_eq_bind, Option.bind_some]
  rw [← course, hfollow, length_sampled, Option.bind_some]
  refine mapM_range_eq_sampled fun h _ => ?_
  rw [extrapolate?, Course.toLevel, getElem?_sampled (Nat.mod_lt _ pos)]
  rfl

end Smoothing

namespace SeasonalParams

variable {p : SeasonalParams} {b : Buffer}

/-- A model that passed its checks reads whole seasons, and two of them at least. The double of the
season is a word that may wrap, and then the checks say nothing about it. -/
theorem seasons_of_validate (h : p.validate = .ok ())
    (fits : 2 * p.seasonLength.toNat < UInt64.size) : 0 < p.seasonLength.toNat ∧
      2 * p.seasonLength.toNat ≤ p.lookBack.toNat ∧
        p.lookBack.toNat % p.seasonLength.toNat = 0 := by
  have hdouble : (2 * p.seasonLength).toNat = 2 * p.seasonLength.toNat := by
    rw [UInt64.toNat_mul]
    exact Nat.mod_eq_of_lt fits
  rw [validate] at h
  split at h
  · cases h
  next hseason =>
  split at h
  · cases h
  split at h
  · cases h
  next htwo =>
  split at h
  · cases h
  next hwhole =>
  refine ⟨?_, ?_, ?_⟩
  · exact Nat.pos_of_ne_zero fun hzero => hseason (UInt64.toNat.inj hzero)
  · rw [UInt64.lt_iff_toNat_lt, hdouble] at htwo
    exact Nat.not_lt.1 htwo
  · rw [← UInt64.toNat_mod, Classical.not_not.1 hwhole]
    rfl

/-- With enough samples there is a forecast. -/
theorem exists_predict? (h : p.validate = .ok ()) (fits : 2 * p.seasonLength.toNat < UInt64.size)
    (enough : p.lookBack.toNat ≤ b.size) : ∃ f, p.predict? b = some (.ok f) := by
  obtain ⟨pos, two, -⟩ := seasons_of_validate h fits
  obtain ⟨xs, hxs, hlength⟩ := Buffer.exists_values? enough
  have hseries : xs = sampled p.lookBack.toNat fun i => xs.getD i 0 := by
    rw [← hlength]
    exact eq_sampled fun _ hi => getElem?_eq_some_getD hi 0
  have hforecast := Smoothing.forecast?_sampled (p := p.smoothing) pos two fun i => xs.getD i 0
  rw [← hseries] at hforecast
  simp only [predict?, hxs, Option.map_some, hforecast]
  exact ⟨_, rfl⟩

end SeasonalParams

end PredictiveScaling
