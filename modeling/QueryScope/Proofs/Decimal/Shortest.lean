import Mathlib.Algebra.Order.Field.Power
import Mathlib.Data.Nat.Dist
import Mathlib.Data.Rat.Cast.Order
import Mathlib.Tactic.FieldSimp
import Mathlib.Tactic.Positivity
import QueryScope.Decimal.Shortest
import QueryScope.Proofs.Nearest

/-!
# The decimal that is written is the shortest

The interval of a word holds what is rounded to it, so a grid has a hit where one of its points
reads back. The number lies between two neighbouring points of a grid, and if any point reads back
one of the two does. So the first hit, from coarse to fine, is on the coarsest grid with one, and
the finest grid always has one.
-/
namespace QueryScope.Decimal

open Binary64 (units unitsPerOne infinityWord nearestWord unboundedWord)

variable {word n m : Nat} {e : Int} {d : Scaled} {i : Interval} {tie : Tie}

def Scaled.value (d : Scaled) : ℚ := d.significand * 10 ^ d.exponent

/-- The word that a decimal is rounded to. -/
def Scaled.rounded (d : Scaled) : Nat :=
  nearestWord (d.significand * 10 ^ d.exponent.toNat * unitsPerOne) (10 ^ (-d.exponent).toNat)

def exactValue (word : Nat) : ℚ := units word / unitsPerOne

theorem ten_zpow (e : Int) : (10 : ℚ) ^ e = (10 ^ e.toNat : Nat) / (10 ^ (-e).toNat : Nat) := by
  rcases Int.le_total 0 e with h | h
  · obtain ⟨k, rfl⟩ := Int.eq_ofNat_of_zero_le h
    simp
  · obtain ⟨k, hk⟩ := Int.eq_ofNat_of_zero_le (Int.neg_nonneg.mpr h)
    obtain rfl : e = -k := by omega
    simp

/-- Decimals are rounded in the order of their values. -/
theorem Scaled.rounded_mono {a b : Scaled} (h : a.value ≤ b.value) : a.rounded ≤ b.rounded := by
  have hpow (k : Nat) : 0 < 10 ^ k := Nat.pow_pos (by decide)
  have hcast (k : Nat) : (0 : ℚ) < (10 ^ k : Nat) := Nat.cast_pos.mpr (hpow k)
  refine Binary64.nearestWord_le_nearestWord (hpow _) (hpow _) ?_
  rw [value, value, ten_zpow, ten_zpow, mul_div_assoc', mul_div_assoc',
    div_le_div_iff₀ (hcast _) (hcast _)] at h
  have hnat : a.significand * 10 ^ a.exponent.toNat * 10 ^ (-b.exponent).toNat ≤
      b.significand * 10 ^ b.exponent.toNat * 10 ^ (-a.exponent).toNat := by
    exact_mod_cast h
  rw [Nat.mul_right_comm _ unitsPerOne, Nat.mul_right_comm _ unitsPerOne]
  exact Nat.mul_le_mul_right _ hnat

/-- Rounding depends on the value of a decimal only. -/
theorem Scaled.rounded_congr {a b : Scaled} (h : a.value = b.value) : a.rounded = b.rounded :=
  Nat.le_antisymm (rounded_mono h.le) (rounded_mono h.ge)

theorem shiftLeft_succ_eq (k l : Nat) : k <<< (l + 1) = 2 * (k * 1 <<< l) := by
  rw [Nat.shiftLeft_eq, Nat.one_shiftLeft, Nat.pow_succ, ← Nat.mul_assoc, Nat.mul_comm]

theorem gridFactor_eq (e : Int) : gridFactor e = 2 * (10 ^ e.toNat * unitsPerOne) :=
  shiftLeft_succ_eq _ 1074

theorem Interval.contains_iff : i.contains e n = true ↔
    if i.closed then
      i.low * valueFactor e ≤ n * gridFactor e ∧ n * gridFactor e ≤ i.high * valueFactor e
    else i.low * valueFactor e < n * gridFactor e ∧ n * gridFactor e < i.high * valueFactor e := by
  unfold contains
  split <;> simp

theorem Interval.bounds_of_contains (h : i.contains e n = true) :
    i.low * valueFactor e ≤ n * gridFactor e ∧ n * gridFactor e ≤ i.high * valueFactor e := by
  rw [contains_iff] at h
  split at h <;> omega

/-- The points in the interval of a word are those that read back to it. -/
theorem contains_ofWord_iff (hpos : 0 < word) (hfinite : word < infinityWord) :
    (Interval.ofWord word).contains e n = true ↔ (Scaled.mk n e).rounded = word := by
  have hden : 0 < 10 ^ (-e).toNat := Nat.pow_pos (by decide)
  have hrounded : (Scaled.mk n e).rounded = word ↔
      unboundedWord (n * 10 ^ e.toNat * unitsPerOne) (10 ^ (-e).toNat) = word := by
    rw [Scaled.rounded, Binary64.nearestWord_eq_min]
    dsimp only
    omega
  have hpoint : n * gridFactor e = 2 * (n * 10 ^ e.toNat * unitsPerOne) := by
    rw [gridFactor_eq, Nat.mul_left_comm, Nat.mul_assoc]
  rw [hrounded, Interval.contains_iff, Binary64.unboundedWord_eq_iff hden hpos, hpoint]
  by_cases heven : word % 2 = 0
  · simp [Interval.ofWord, valueFactor, heven]
  · simp [Interval.ofWord, valueFactor, heven]

/-- The number lies inside of the reals that round to it. -/
structure Interval.Proper (i : Interval) : Prop where
  low_lt : i.low < i.middle
  lt_high : i.middle < i.high

theorem proper_ofWord (hpos : 0 < word) : (Interval.ofWord word).Proper := by
  have hbelow := Binary64.units_strictMono (Nat.sub_one_lt hpos.ne')
  have habove := Binary64.units_strictMono (Nat.lt_add_one word)
  constructor <;> simp only [Interval.ofWord] <;> omega

/-! The two neighbours of a number on a grid. -/

theorem gridFactor_pos (e : Int) : 0 < gridFactor e := by
  rw [gridFactor_eq]
  exact Nat.mul_pos Nat.two_pos (Nat.mul_pos (Nat.pow_pos (by decide)) (by decide))

theorem valueFactor_pos (e : Int) : 0 < valueFactor e := Nat.pow_pos (by decide)

namespace Interval

/-- How far a point of a grid is from the number. -/
def distance (i : Interval) (e : Int) (n : Nat) : Nat :=
  Nat.dist (n * gridFactor e) (i.middle * valueFactor e)

/-- The last point of a grid that is not above the number. -/
def below (i : Interval) (e : Int) : Nat := i.middle * valueFactor e / gridFactor e

/-- What lies between a point that reads back and the number reads back. -/
theorem contains_of_between (h : i.Proper) (hm : i.contains e m = true)
    (hn : m * gridFactor e ≤ n * gridFactor e ∧ n * gridFactor e ≤ i.middle * valueFactor e ∨
      i.middle * valueFactor e ≤ n * gridFactor e ∧ n * gridFactor e ≤ m * gridFactor e) :
    i.contains e n = true := by
  have hlow := Nat.mul_lt_mul_of_pos_right h.low_lt (valueFactor_pos e)
  have hhigh := Nat.mul_lt_mul_of_pos_right h.lt_high (valueFactor_pos e)
  rw [contains_iff] at hm ⊢
  split at hm <;> rename_i hclosed <;> simp only [hclosed, if_true, Bool.false_eq_true, if_false]
  · omega
  · omega

theorem below_bounds (i : Interval) (e : Int) :
    i.below e * gridFactor e ≤ i.middle * valueFactor e ∧
      i.middle * valueFactor e < i.below e * gridFactor e + gridFactor e := by
  have hdiv := Nat.div_add_mod' (i.middle * valueFactor e) (gridFactor e)
  have hrest := Nat.mod_lt (i.middle * valueFactor e) (gridFactor_pos e)
  rw [← below] at hdiv
  omega

/-- If a point of a grid reads back, so does one of the two neighbours. -/
theorem contains_neighbour (h : i.Proper) (hm : i.contains e m = true) :
    (m ≤ i.below e → i.contains e (i.below e) = true) ∧
      (i.below e < m → i.contains e (i.below e + 1) = true) := by
  obtain ⟨hle, hlt⟩ := below_bounds i e
  constructor
  · intro hside
    exact contains_of_between h hm (.inl ⟨Nat.mul_le_mul_right _ hside, hle⟩)
  · intro hside
    have hnext := Nat.mul_le_mul_right (gridFactor e) hside
    rw [Nat.succ_mul] at hnext
    refine contains_of_between h hm (.inr ?_)
    rw [Nat.succ_mul]
    exact ⟨hlt.le, hnext⟩

/-- Between two neighbours that read back the nearer one is taken. -/
def nearer (i : Interval) (tie : Tie) (e : Int) : Nat :=
  let b := i.below e
  match compare (2 * (i.middle * valueFactor e)) ((2 * b + 1) * gridFactor e) with
  | .lt => b
  | .gt => b + 1
  | .eq =>
    match tie with
    | .up => b + 1
    | .even => b + b % 2

theorem nearest?_eq (i : Interval) (tie : Tie) (e : Int) :
    i.nearest? tie e =
      if i.contains e (i.below e) then
        if i.contains e (i.below e + 1) then some (i.nearer tie e) else some (i.below e)
      else if i.contains e (i.below e + 1) then some (i.below e + 1) else none := by
  unfold nearest? nearer
  rw [below]
  dsimp only
  cases i.contains e (i.middle * valueFactor e / gridFactor e) <;>
    cases i.contains e (i.middle * valueFactor e / gridFactor e + 1) <;>
    simp only [if_true, Bool.false_eq_true, if_false]
  cases compare (2 * (i.middle * valueFactor e))
    ((2 * (i.middle * valueFactor e / gridFactor e) + 1) * gridFactor e) <;>
    cases tie <;> simp only []

/-- A grid without a nearest point has no point in the interval. -/
theorem contains_of_nearest?_eq_none (h : i.Proper) (hnone : i.nearest? tie e = none) (m : Nat) :
    i.contains e m = false := by
  refine Bool.eq_false_iff.mpr fun hm => ?_
  obtain ⟨hbelow, habove⟩ := contains_neighbour h hm
  rw [nearest?_eq] at hnone
  rcases Nat.lt_or_ge (i.below e) m with hside | hside
  · rw [if_pos (habove hside), if_pos (habove hside)] at hnone
    split at hnone <;> cases hnone
  · rw [if_pos (hbelow hside)] at hnone
    split at hnone <;> cases hnone

/-- Of two points at one distance the even one is preferred, or the one above. -/
def Prefers : Tie → Nat → Nat → Prop
  | .even, n, _ => n % 2 = 0
  | .up, n, m => m < n

/-- A point is as near to the number as another one, or nearer. -/
def AsNear (i : Interval) (tie : Tie) (e : Int) (n m : Nat) : Prop :=
  i.distance e n ≤ i.distance e m ∧ (i.distance e n = i.distance e m → m = n ∨ Prefers tie n m)

theorem mul_cases (m b g : Nat) :
    m = b ∨ m = b + 1 ∨ m * g + g ≤ b * g ∨ b * g + 2 * g ≤ m * g := by
  rcases Nat.lt_trichotomy m b with hlt | heq | hlt
  · exact .inr (.inr (.inl (Nat.succ_mul m g ▸ Nat.mul_le_mul_right g hlt)))
  · exact .inl heq
  · rcases (Nat.succ_le_of_lt hlt).eq_or_lt with heq | hlt
    · exact .inr (.inl heq.symm)
    · have hmul := Nat.mul_le_mul_right g (Nat.succ_le_of_lt hlt)
      rw [Nat.succ_mul, Nat.succ_mul] at hmul
      omega

theorem asNear_below (hm : m ≤ i.below e) : i.AsNear tie e (i.below e) m := by
  obtain ⟨hle, hlt⟩ := below_bounds i e
  have hg := gridFactor_pos e
  have hmul := Nat.mul_le_mul_right (gridFactor e) hm
  rcases mul_cases m (i.below e) (gridFactor e) with rfl | heq | hmul | hmul
  · exact ⟨Nat.le_refl _, fun _ => .inl rfl⟩
  · omega
  · unfold AsNear distance Nat.dist
    omega
  · omega

theorem asNear_above (hm : i.below e < m) : i.AsNear tie e (i.below e + 1) m := by
  obtain ⟨hle, hlt⟩ := below_bounds i e
  have hg := gridFactor_pos e
  have hmul := Nat.mul_le_mul_right (gridFactor e) hm.le
  rcases mul_cases m (i.below e) (gridFactor e) with heq | rfl | hmul | hmul
  · omega
  · exact ⟨Nat.le_refl _, fun _ => .inl rfl⟩
  · omega
  · unfold AsNear distance Nat.dist
    rw [Nat.add_one_mul]
    omega

/-- The nearer neighbour is as near as any point. -/
theorem asNear_nearer (i : Interval) (tie : Tie) (e : Int) (m : Nat) :
    i.AsNear tie e (i.nearer tie e) m := by
  obtain ⟨hle, hlt⟩ := below_bounds i e
  have hg := gridFactor_pos e
  have hmiddle : (2 * i.below e + 1) * gridFactor e =
      2 * (i.below e * gridFactor e) + gridFactor e := by
    rw [Nat.add_one_mul, Nat.mul_assoc]
  have hnext := Nat.add_one_mul (i.below e) (gridFactor e)
  have hm := mul_cases m (i.below e) (gridFactor e)
  unfold nearer AsNear distance Nat.dist
  dsimp only
  rw [hmiddle]
  split
  · rename_i hcompare
    rw [Nat.compare_eq_lt] at hcompare
    rcases hm with rfl | rfl | hmul | hmul <;> omega
  · rename_i hcompare
    rw [Nat.compare_eq_gt] at hcompare
    rcases hm with rfl | rfl | hmul | hmul <;> omega
  · rename_i hcompare
    rw [Nat.compare_eq_eq] at hcompare
    cases tie with
    | up =>
      dsimp only [Prefers]
      rcases hm with rfl | rfl | hmul | hmul <;> omega
    | even =>
      dsimp only [Prefers]
      rcases Nat.mod_two_eq_zero_or_one (i.below e) with hmod | hmod
      · rw [hmod, Nat.add_zero]
        rcases hm with rfl | rfl | hmul | hmul <;> omega
      · rw [hmod]
        rcases hm with rfl | rfl | hmul | hmul <;> omega

theorem contains_nearer (hbelow : i.contains e (i.below e) = true)
    (habove : i.contains e (i.below e + 1) = true) : i.contains e (i.nearer tie e) = true := by
  unfold nearer
  dsimp only
  split
  · exact hbelow
  · exact habove
  · cases tie with
    | up => exact habove
    | even =>
      dsimp only
      rcases Nat.mod_two_eq_zero_or_one (i.below e) with hmod | hmod
      · rw [hmod, Nat.add_zero]
        exact hbelow
      · rw [hmod]
        exact habove

/-- A hit reads back, and is as near as any point of its grid that reads back. -/
theorem nearest?_eq_some (h : i.Proper) (hsome : i.nearest? tie e = some n) :
    i.contains e n = true ∧ ∀ m, i.contains e m = true → i.AsNear tie e n m := by
  rw [nearest?_eq] at hsome
  split at hsome
  · rename_i hbelow
    split at hsome
    · rename_i habove
      obtain rfl := Option.some.inj hsome
      exact ⟨contains_nearer hbelow habove, fun m _ => asNear_nearer i tie e m⟩
    · rename_i habove
      obtain rfl := Option.some.inj hsome
      exact ⟨hbelow, fun m hm =>
        asNear_below (Nat.not_lt.mp fun hlt => habove ((contains_neighbour h hm).2 hlt))⟩
  · rename_i hbelow
    split at hsome
    · rename_i habove
      obtain rfl := Option.some.inj hsome
      exact ⟨habove, fun m hm =>
        asNear_above (Nat.not_le.mp fun hle => hbelow ((contains_neighbour h hm).1 hle))⟩
    · cases hsome

/-! From the coarsest grid to the finest. -/

/-- A search ends at its first hit. -/
theorem search_cases (i : Interval) (tie : Tie) (word k : Nat) :
    (∀ l < k, i.nearest? tie (finestExponent + l) = none) ∨
      ∃ j < k, (i.search tie word k).exponent = finestExponent + j ∧
        i.nearest? tie (finestExponent + j) = some (i.search tie word k).significand ∧
        ∀ l, j < l → l < k → i.nearest? tie (finestExponent + l) = none := by
  induction k with
  | zero => exact .inl nofun
  | succ k ih =>
    rw [search]
    split
    · rename_i significand hit
      exact .inr ⟨k, Nat.lt_succ_self k, rfl, hit, fun l hlow hhigh => by omega⟩
    · rename_i hmiss
      have hextend {j : Nat} (h : ∀ l, j ≤ l → l < k → i.nearest? tie (finestExponent + l) = none)
          (l : Nat) (hlow : j ≤ l) (hhigh : l < k + 1) :
          i.nearest? tie (finestExponent + l) = none := by
        rcases Nat.lt_succ_iff_lt_or_eq.mp hhigh with hlt | rfl
        · exact h l hlow hlt
        · exact hmiss
      rcases ih with hnone | ⟨j, hj, hexponent, hit, hnone⟩
      · exact .inl fun l hl => hextend (fun l _ => hnone l) l (Nat.zero_le l) hl
      · exact .inr ⟨j, hj.trans (Nat.lt_succ_self k), hexponent, hit, hextend hnone⟩

/-- The finest grid is finer than the interval of any word. -/
theorem contains_finest (h : i.Proper) :
    i.contains finestExponent (i.below finestExponent) = true := by
  have hfine : gridFactor finestExponent ≤ valueFactor finestExponent := by decide +kernel
  obtain ⟨hle, hlt⟩ := below_bounds i finestExponent
  have hlow := Nat.mul_le_mul_right (valueFactor finestExponent) (Nat.succ_le_of_lt h.low_lt)
  have hhigh := Nat.mul_lt_mul_of_pos_right h.lt_high (valueFactor_pos finestExponent)
  rw [Nat.succ_mul] at hlow
  rw [contains_iff]
  split <;> omega

/-- On a coarse grid no point but zero is finite. -/
theorem contains_ofWord_coarse (hpos : 0 < word) (hfinite : word < infinityWord) (he : 310 ≤ e)
    (n : Nat) : (ofWord word).contains e n = false := by
  have hlarge : 2 * units infinityWord < gridFactor 310 := by decide +kernel
  have hgrid : gridFactor 310 ≤ gridFactor e := by
    rw [gridFactor_eq, gridFactor_eq]
    have hpow : 10 ^ (310 : Int).toNat ≤ 10 ^ e.toNat :=
      Nat.pow_le_pow_right (by decide) (Int.toNat_le_toNat he)
    exact Nat.mul_le_mul_left 2 (Nat.mul_le_mul_right _ hpow)
  have hvalue : valueFactor e = 1 := by
    rw [valueFactor, Int.toNat_of_nonpos (by omega)]
  have hword := Binary64.units_strictMono hfinite
  have hnext : units (word + 1) ≤ units infinityWord :=
    Binary64.units_strictMono.monotone hfinite
  have hself := Binary64.units_strictMono (Nat.sub_one_lt hpos.ne')
  refine Bool.eq_false_iff.mpr fun hcontains => ?_
  obtain ⟨hlow, hhigh⟩ := bounds_of_contains hcontains
  simp only [ofWord, hvalue, Nat.mul_one] at hlow hhigh
  rcases Nat.eq_zero_or_pos n with rfl | hn
  · omega
  · have hpoint := Nat.le_mul_of_pos_left (gridFactor e) hn
    omega

end Interval

/-! What is written. -/

/-- The digits are the nearest point of the coarsest grid with a point in the interval. -/
theorem nearest?_shortest (tie : Tie) (hpos : 0 < word) (hfinite : word < infinityWord) :
    (Interval.ofWord word).nearest? tie (shortest tie word).exponent =
        some (shortest tie word).significand ∧
      ∀ e n, (shortest tie word).exponent < e →
        (Interval.ofWord word).contains e n = false := by
  have hproper := proper_ofWord hpos
  rw [shortest, if_neg hpos.ne']
  rcases Interval.search_cases (Interval.ofWord word) tie word 653 with
    hnone | ⟨j, -, hexponent, hit, hnone⟩
  · have hfinest := Interval.contains_finest hproper
    have hmiss := hnone 0 (by decide)
    rw [Int.ofNat_zero, Int.add_zero] at hmiss
    rw [Interval.contains_of_nearest?_eq_none hproper hmiss] at hfinest
    cases hfinest
  · rw [hexponent]
    refine ⟨hit, fun e n he => ?_⟩
    obtain ⟨l, rfl⟩ : ∃ l : Nat, e = finestExponent + l :=
      ⟨(e - finestExponent).toNat, by omega⟩
    rcases Nat.lt_or_ge l 653 with hl | hl
    · exact Interval.contains_of_nearest?_eq_none hproper (hnone l (by omega) hl) n
    · refine Interval.contains_ofWord_coarse hpos hfinite ?_ n
      unfold finestExponent
      omega

theorem cast_dist (a b : Nat) : (Nat.dist a b : ℚ) = |(a : ℚ) - b| := by
  rcases Nat.le_total a b with h | h
  · rw [Nat.dist_eq_sub_of_le h, Nat.cast_sub h, abs_sub_comm,
      abs_of_nonneg (sub_nonneg.mpr (Nat.cast_le.mpr h))]
  · rw [Nat.dist_eq_sub_of_le_right h, Nat.cast_sub h,
      abs_of_nonneg (sub_nonneg.mpr (Nat.cast_le.mpr h))]

/-- How far a decimal is from a magnitude. -/
theorem abs_value_sub (n : Nat) (e : Int) (word : Nat) :
    |(Scaled.mk n e).value - exactValue word| =
      (Interval.ofWord word).distance e n / (2 * unitsPerOne * valueFactor e : Nat) := by
  have hunits : (0 : ℚ) < unitsPerOne := Nat.cast_pos.mpr (by decide)
  have hvalue : (0 : ℚ) < valueFactor e := Nat.cast_pos.mpr (valueFactor_pos e)
  have hsub : (Scaled.mk n e).value - exactValue word =
      ((n * gridFactor e : Nat) - ((Interval.ofWord word).middle * valueFactor e : Nat) : ℚ) /
        (2 * unitsPerOne * valueFactor e : Nat) := by
    rw [Scaled.value, exactValue, ten_zpow, gridFactor_eq]
    simp only [Interval.ofWord]
    change _ * (_ / ((valueFactor e : Nat) : ℚ)) - _ = _
    push_cast
    field_simp
  rw [hsub, abs_div, Nat.abs_cast, ← cast_dist, Interval.distance]

/-- What the shortest decimal of a word is. -/
structure IsShortest (tie : Tie) (word : Nat) (d : Scaled) : Prop where
  reads_back : d.rounded = word
  /-- No decimal that reads back lies on a coarser grid. -/
  coarsest : ∀ d' : Scaled, d'.rounded = word → d'.exponent ≤ d.exponent
  /-- No decimal that reads back has fewer digits. -/
  fewest : ∀ d' : Scaled, d'.rounded = word → ∀ k, d'.significand < 10 ^ k → d.significand < 10 ^ k
  nearest : ∀ d' : Scaled, d'.rounded = word → d'.exponent = d.exponent →
    |d.value - exactValue word| ≤ |d'.value - exactValue word|
  /-- Of two that are as near the format takes its choice. -/
  prefers : ∀ d' : Scaled, d'.rounded = word → d'.exponent = d.exponent →
    |d.value - exactValue word| = |d'.value - exactValue word| →
      d' = d ∨ Interval.Prefers tie d.significand d'.significand

theorem Scaled.value_zero (e : Int) : (Scaled.mk 0 e).value = 0 := by
  rw [value, Nat.cast_zero, zero_mul]

/-- A decimal on the coarsest grid that has one is among those with fewest digits. -/
theorem fewest_of_coarsest {d' : Scaled} (hd : d.rounded = word) (hd' : d'.rounded = word)
    (hcoarsest : ∀ c : Scaled, c.rounded = word → c.exponent ≤ d.exponent) {k : Nat}
    (hk : d'.significand < 10 ^ k) : d.significand < 10 ^ k := by
  by_contra hmore
  obtain _ | k := k
  · -- zero lies on every grid
    have hzero : d'.significand = 0 := Nat.lt_one_iff.mp hk
    have hvalue : (Scaled.mk 0 (d.exponent + 1)).value = d'.value := by
      rw [Scaled.value_zero, Scaled.value, hzero, Nat.cast_zero, zero_mul]
    have hgrid := hcoarsest _ ((Scaled.rounded_congr hvalue).trans hd')
    dsimp only at hgrid
    omega
  · -- a power of ten lies between the two decimals, on a coarser grid
    have hten : (Scaled.mk 1 (d.exponent + (k + 1 : Nat))).value =
        (10 ^ (k + 1) : Nat) * 10 ^ d.exponent := by
      rw [Scaled.value, zpow_add₀ (by norm_num), zpow_natCast]
      push_cast
      rw [one_mul, mul_comm]
    have hpos : (0 : ℚ) < 10 ^ d.exponent := zpow_pos (by norm_num) _
    have hbelow : d'.value ≤ (Scaled.mk 1 (d.exponent + (k + 1 : Nat))).value := by
      rw [hten, Scaled.value]
      have hgrid : (10 : ℚ) ^ d'.exponent ≤ 10 ^ d.exponent :=
        zpow_le_zpow_right₀ (by norm_num) (hcoarsest d' hd')
      exact mul_le_mul (Nat.cast_le.mpr hk.le) hgrid (zpow_pos (by norm_num) _).le
        (Nat.cast_nonneg _)
    have habove : (Scaled.mk 1 (d.exponent + (k + 1 : Nat))).value ≤ d.value := by
      rw [hten, Scaled.value]
      exact mul_le_mul_of_nonneg_right (Nat.cast_le.mpr (Nat.not_lt.mp hmore)) hpos.le
    have hback := Nat.le_antisymm ((Scaled.rounded_mono habove).trans hd.le)
      (hd'.ge.trans (Scaled.rounded_mono hbelow))
    have hgrid := hcoarsest _ hback
    dsimp only at hgrid
    omega

/-- Every finite magnitude is written as its shortest decimal. -/
theorem isShortest_shortest (tie : Tie) (hpos : 0 < word) (hfinite : word < infinityWord) :
    IsShortest tie word (shortest tie word) := by
  obtain ⟨hit, hcoarse⟩ := nearest?_shortest tie hpos hfinite
  obtain ⟨hcontains, hnear⟩ := Interval.nearest?_eq_some (proper_ofWord hpos) hit
  obtain ⟨⟨n, e⟩, hd⟩ : ∃ d, shortest tie word = d := ⟨_, rfl⟩
  rw [hd] at hcoarse hcontains hnear ⊢
  have hback : (Scaled.mk n e).rounded = word := (contains_ofWord_iff hpos hfinite).mp hcontains
  have hcoarsest (d' : Scaled) (hd' : d'.rounded = word) : d'.exponent ≤ e := by
    refine Int.not_lt.mp fun hlt => ?_
    have hmiss := hcoarse d'.exponent d'.significand hlt
    rw [(contains_ofWord_iff hpos hfinite).mpr hd'] at hmiss
    cases hmiss
  have hfactor : (0 : ℚ) < (2 * unitsPerOne * valueFactor e : Nat) :=
    Nat.cast_pos.mpr (Nat.mul_pos (by decide) (valueFactor_pos e))
  refine ⟨hback, hcoarsest, fun d' hd' k => fewest_of_coarsest hback hd' hcoarsest, ?_, ?_⟩
  · rintro ⟨m, _⟩ hm rfl
    rw [abs_value_sub, abs_value_sub, div_le_div_iff_of_pos_right hfactor, Nat.cast_le]
    exact (hnear m ((contains_ofWord_iff hpos hfinite).mpr hm)).1
  · rintro ⟨m, _⟩ hm rfl
    rw [abs_value_sub, abs_value_sub, div_left_inj' hfactor.ne', Nat.cast_inj]
    intro heq
    exact ((hnear m ((contains_ofWord_iff hpos hfinite).mpr hm)).2 heq).imp_left
      fun hmn => by rw [hmn]

example : shortest .even 0x3fb999999999999a = ⟨1, -1⟩ := by decide +kernel

/-- A tie between two decimals of seventeen digits. -/
example : (shortest .even 0x3e60000000000000).significand = 29802322387695312 ∧
    (shortest .up 0x3e60000000000000).significand = 29802322387695313 := by decide +kernel

/-- What is written reads back. -/
theorem rounded_shortest (tie : Tie) (hfinite : word < infinityWord) :
    (shortest tie word).rounded = word := by
  rcases Nat.eq_zero_or_pos word with rfl | hpos
  · rw [shortest, if_pos rfl]
    decide +kernel
  · exact (isShortest_shortest tie hpos hfinite).reads_back

end QueryScope.Decimal
