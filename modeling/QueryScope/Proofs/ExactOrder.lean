import Mathlib.Data.EReal.Basic
import QueryScope.Proofs.Nearest
import QueryScope.Proofs.ValueOrder

/-!
# The exact order of numbers

A number that is no not-a-number has an exact value in the extended reals. Finite values are whole
numbers of units, and the place of a number among the binary numbers is found by rounding them. As
rounding keeps order, comparing places can make different values tie but never reverses them.
-/
namespace QueryScope

namespace Binary64

variable {x : Binary64} {n : ℤ} {u v : EReal}

/-- The magnitude that the exponent and fraction fields of a word denote. -/
noncomputable def fieldsValue (word : ℕ) : ℝ :=
  let exponent := word / wordsPerExponent
  let fraction : ℝ := (word % wordsPerExponent : ℕ) / 2 ^ 52
  if exponent = 0 then fraction * 2 ^ (-1022 : ℤ)
  else (1 + fraction) * 2 ^ ((exponent : ℤ) - 1023)

noncomputable def value (x : Binary64) : ℝ :=
  if x.negative then -fieldsValue x.magnitude else fieldsValue x.magnitude

/-- The value of a number in the extended reals; a not-a-number has none. -/
noncomputable def exactValue? (x : Binary64) : Option EReal :=
  if x.isNaN then none
  else if x.isInfinite then some (if x.negative then ⊥ else ⊤)
  else some x.value

def IsFinite (x : Binary64) : Prop := x.magnitude.val < infinityWord

/-- No finite number is nearer to an integer, and if another one is as near the word is even. -/
structure IsNearest (x : Binary64) (n : ℤ) : Prop where
  finite : x.IsFinite
  nearest : ∀ y : Binary64, y.IsFinite → |x.value - n| ≤ |y.value - n|
  even_of_tie : ∀ y : Binary64, y.IsFinite → |x.value - n| = |y.value - n| →
    y.value = x.value ∨ x.magnitude.val % 2 = 0

/-- The magnitude in units with the sign of the number. -/
def signedUnits (x : Binary64) : ℤ :=
  if x.negative then -units x.magnitude else units x.magnitude

theorem coe_unitsPerOne : (unitsPerOne : ℝ) = 2 ^ 1074 := by
  have hshift (k : ℕ) : ((1 <<< k : ℕ) : ℝ) = 2 ^ k := by
    rw [Nat.one_shiftLeft, Nat.cast_pow, Nat.cast_ofNat]
  exact hshift 1074

theorem unitsPerOne_pos : (0 : ℝ) < unitsPerOne := Nat.cast_pos.mpr (by decide)

theorem fieldsValue_eq (word : ℕ) : fieldsValue word = units word / unitsPerOne := by
  have hsubnormal : (2 : ℝ) ^ (-1022 : ℤ) = 2 ^ 52 / unitsPerOne := by
    rw [eq_div_iff unitsPerOne_pos.ne', coe_unitsPerOne, ← zpow_natCast, ← zpow_natCast,
      ← zpow_add₀ two_ne_zero]
    norm_num
  have hword := Nat.div_add_mod' word wordsPerExponent
  have hrest := Nat.mod_lt word (show 0 < wordsPerExponent by decide)
  rw [fieldsValue]
  cases hexponent : word / wordsPerExponent with
  | zero =>
    rw [hexponent, Nat.zero_mul, Nat.zero_add] at hword
    rw [if_pos rfl, units_of_lt (hword ▸ hrest), hsubnormal, hword]
    field_simp
  | succ e =>
    have hscale : ((e + 1 : ℕ) : ℤ) - 1023 = e + (-1022) := by
      push_cast
      ring
    have hleading : (wordsPerExponent : ℝ) = 2 ^ 52 := by norm_num [wordsPerExponent]
    rw [hexponent] at hword
    rw [← hword, units_fields hrest, hword, if_neg (Nat.succ_ne_zero e), hscale,
      zpow_add₀ two_ne_zero, zpow_natCast, hsubnormal, Nat.cast_mul, Nat.cast_add, hleading]
    push_cast
    field_simp

/-- A binary number denotes a whole number of the smallest units. -/
theorem value_eq (x : Binary64) : x.value = x.signedUnits / unitsPerOne := by
  rw [value, signedUnits, fieldsValue_eq]
  split
  · rw [Int.cast_neg, Int.cast_natCast, neg_div]
  · rw [Int.cast_natCast]

theorem roundedRank_bounds (c : ℤ) :
    -(infinityWord : ℤ) ≤ roundedRank c ∧ roundedRank c ≤ infinityWord := by
  have h : nearestWord c.natAbs 1 ≤ infinityWord := Nat.min_le_right _ _
  unfold roundedRank
  split <;> omega

/-- What a number denotes is rounded to that number. -/
theorem rank_eq_roundedRank (h : x.isNaN = false) : x.rank = roundedRank x.signedUnits := by
  have hle : x.magnitude.val ≤ infinityWord := by simpa [isNaN] using h
  have hexact : nearestWord (units x.magnitude) 1 = x.magnitude := by
    rw [nearestWord_eq_min, unboundedWord_units]
    omega
  have hzero : units x.magnitude = 0 → x.magnitude.val = 0 := fun hunits =>
    units_strictMono.injective hunits
  unfold rank signedUnits roundedRank
  cases x.negative with
  | false => simp [hexact]
  | true =>
    simp [hexact]
    omega

theorem abs_value_sub (x : Binary64) (n : ℤ) :
    |x.value - n| = (x.signedUnits - n * unitsPerOne).natAbs / unitsPerOne := by
  have hsub : x.value - n = (x.signedUnits - n * unitsPerOne : ℤ) / unitsPerOne := by
    rw [value_eq]
    push_cast
    field_simp [unitsPerOne_pos.ne']
  rw [hsub, abs_div, abs_of_pos unitsPerOne_pos, Nat.cast_natAbs, Int.cast_abs]

/-- How far a number is from an integer, by whether the two have the same sign. -/
theorem natAbs_signedUnits_sub (x : Binary64) (n : ℤ) :
    (x.signedUnits - n * unitsPerOne).natAbs =
      if x.negative = decide (n < 0)
      then (units x.magnitude - (n.natAbs * unitsPerOne : ℕ) : ℤ).natAbs
      else units x.magnitude + n.natAbs * unitsPerOne := by
  have hunits : n * unitsPerOne =
      if n < 0 then -((n.natAbs * unitsPerOne : ℕ) : ℤ) else (n.natAbs * unitsPerOne : ℕ) := by
    split
    · rw [Nat.cast_mul, ← neg_mul, ← Int.eq_neg_natAbs_of_nonpos (by omega)]
    · rw [Nat.cast_mul, ← Int.eq_natAbs_of_nonneg (by omega)]
  rw [hunits, signedUnits]
  generalize n.natAbs * unitsPerOne = k
  by_cases hn : n < 0 <;> cases x.negative <;>
    simp only [hn, decide_true, decide_false, if_true, if_false, reduceCtorEq] <;> omega

/-- An integer of a machine word is far below the infinities. -/
theorem unboundedWord_lt (h : n.natAbs < 2 ^ 64) :
    unboundedWord (n.natAbs * unitsPerOne) 1 < infinityWord := by
  have hsmall : n.natAbs * unitsPerOne ≤ 2 ^ 64 * unitsPerOne := Nat.mul_le_mul_right _ h.le
  have hlarge : 2 * (2 ^ 64 * unitsPerOne) < units infinityWord := by decide +kernel
  have hzero : units 0 = 0 := rfl
  have hnearest := (unboundedWord_nearest (n.natAbs * unitsPerOne) Nat.one_pos 0).1
  dsimp only at hnearest
  refine units_strictMono.lt_iff_lt.mp ?_
  omega

/-- An integer of 64 bits is converted to the nearest binary number. -/
theorem isNearest_ofInt (h : n.natAbs < 2 ^ 64) : (ofInt n).IsNearest n := by
  have hword : (ofInt n).magnitude.val = unboundedWord (n.natAbs * unitsPerOne) 1 := by
    change nearestWord _ _ = _
    rw [nearestWord_eq_min, Nat.min_eq_left (unboundedWord_lt h).le]
  have hdistance : ((ofInt n).signedUnits - n * unitsPerOne).natAbs =
      (units (ofInt n).magnitude - (n.natAbs * unitsPerOne : ℕ) : ℤ).natAbs := by
    rw [natAbs_signedUnits_sub]
    exact if_pos rfl
  -- a number of the other sign is no nearer than zero
  have hzero := unboundedWord_nearest (n.natAbs * unitsPerOne) Nat.one_pos 0
  have hunits : units 0 = 0 := rfl
  have hnearest (y : Binary64) :=
    unboundedWord_nearest (n.natAbs * unitsPerOne) Nat.one_pos y.magnitude
  simp only [← hword, Nat.mul_one] at hzero hnearest
  refine ⟨hword.trans_lt (unboundedWord_lt h), fun y _ => ?_, fun y _ htie => ?_⟩
  · rw [abs_value_sub, abs_value_sub, div_le_div_iff_of_pos_right unitsPerOne_pos, Nat.cast_le,
      hdistance, natAbs_signedUnits_sub]
    split
    · exact (hnearest y).1
    · omega
  · rw [abs_value_sub, abs_value_sub, div_left_inj' unitsPerOne_pos.ne', Nat.cast_inj, hdistance,
      natAbs_signedUnits_sub] at htie
    split at htie
    · rename_i hsign
      rcases (hnearest y).2 htie with hsame | heven
      · left
        rw [value, value, hsign, hsame]
        rfl
      · exact .inr heven
    · right
      omega

/-- Where an exact value has its place among the binary numbers. -/
inductive PlacedAt : EReal → ℤ → Prop
  | finite (c : ℤ) : PlacedAt ((c / unitsPerOne : ℝ) : EReal) (roundedRank c)
  | top : PlacedAt ⊤ infinityWord
  | bot : PlacedAt ⊥ (-infinityWord)

theorem PlacedAt.mono {i j : ℤ} (hu : PlacedAt u i) (hv : PlacedAt v j) (h : u ≤ v) : i ≤ j := by
  cases hu with
  | finite c =>
    cases hv with
    | finite d =>
      rw [EReal.coe_le_coe_iff, div_le_div_iff_of_pos_right unitsPerOne_pos, Int.cast_le] at h
      exact roundedRank_mono h
    | top => exact (roundedRank_bounds c).2
    | bot => exact absurd (le_bot_iff.mp h) (EReal.coe_ne_bot _)
  | top =>
    cases hv with
    | finite d => exact absurd (top_le_iff.mp h) (EReal.coe_ne_top _)
    | top => exact le_rfl
    | bot => exact absurd (top_le_iff.mp h) bot_ne_top
  | bot =>
    cases hv with
    | finite d => exact (roundedRank_bounds d).1
    | top => decide
    | bot => exact le_rfl

theorem exactValue?_of_isNaN (h : x.isNaN = true) : x.exactValue? = none := if_pos h

theorem exactValue?_zero (negative : Bool) :
    exactValue? ⟨negative, 0, by decide⟩ = some ((0 : ℝ) : EReal) := by
  simp [exactValue?, isNaN, isInfinite, infinityWord, wordsPerExponent, value, fieldsValue]

theorem placedAt_of_exactValue? (h : x.exactValue? = some u) : PlacedAt u x.rank := by
  unfold exactValue? at h
  split at h
  · cases h
  rename_i hnan
  split at h
  · rename_i hinfinite
    have hword : x.magnitude.val = infinityWord := of_decide_eq_true hinfinite
    rw [rank, hword]
    obtain rfl := Option.some.inj h
    cases x.negative with
    | false => exact .top
    | true => exact .bot
  · obtain rfl := Option.some.inj h
    rw [value_eq, rank_eq_roundedRank (Bool.eq_false_iff.mpr hnan)]
    exact .finite _

end Binary64

namespace Number

variable {a b : Number} {m : ℤ} {u v : EReal}

noncomputable def exactValue? : Number → Option EReal
  | .signed n => some (n.toInt : ℝ)
  | .unsigned n => some (n.toNat : ℝ)
  | .float x => x.exactValue?

theorem exactValue?_of_integer? (h : a.integer? = some m) :
    a.exactValue? = some ((m : ℝ) : EReal) := by
  cases a <;> cases h <;> rfl

theorem natAbs_lt_of_integer? (h : a.integer? = some m) : m.natAbs < 2 ^ 64 := by
  cases a with
  | signed n =>
    have := n.le_toInt
    have := n.toInt_lt
    cases h
    omega
  | unsigned n =>
    have := n.toNat_lt
    cases h
    omega
  | float x => cases h

theorem isNaN_of_exactValue? (h : a.exactValue? = some u) : a.isNaN = false := by
  cases a with
  | signed | unsigned => rfl
  | float x =>
    refine Bool.eq_false_iff.mpr fun hnan => ?_
    rw [exactValue?, Binary64.exactValue?_of_isNaN hnan] at h
    cases h

/-- The place of a number among the binary numbers is that of its exact value. -/
theorem placedAt_of_exactValue? (h : a.exactValue? = some u) : Binary64.PlacedAt u a.place := by
  cases ha : a.integer? with
  | some m =>
    have hunits : (m : ℝ) = (m * Binary64.unitsPerOne : ℤ) / Binary64.unitsPerOne := by
      rw [Int.cast_mul, Int.cast_natCast, mul_div_cancel_right₀ _ Binary64.unitsPerOne_pos.ne']
    rw [exactValue?_of_integer? ha] at h
    rw [← Option.some.inj h, hunits, place, toBinary64_of_integer? ha, Binary64.rank_ofInt]
    exact .finite _
  | none =>
    cases a with
    | signed | unsigned => cases ha
    | float x => exact Binary64.placedAt_of_exactValue? h

/-- Two numbers are compared by integers that are in order if the exact values are: the values
themselves or their places. -/
theorem exists_compare?_eq (ha : a.exactValue? = some u) (hb : b.exactValue? = some v) :
    ∃ i j : ℤ, a.compare? b = some (compare i j) ∧ (u ≤ v → i ≤ j) ∧ (v ≤ u → j ≤ i) := by
  obtain ⟨m, n, hm, hn⟩ | hbinary := integers_or_not a b
  · refine ⟨m, n, compare?_of_integers hm hn, ?_⟩
    rw [exactValue?_of_integer? hm] at ha
    rw [exactValue?_of_integer? hn] at hb
    rw [← Option.some.inj ha, ← Option.some.inj hb, EReal.coe_le_coe_iff, EReal.coe_le_coe_iff,
      Int.cast_le, Int.cast_le]
    exact ⟨id, id⟩
  · refine ⟨a.place, b.place, ?_, (placedAt_of_exactValue? ha).mono (placedAt_of_exactValue? hb),
      (placedAt_of_exactValue? hb).mono (placedAt_of_exactValue? ha)⟩
    rw [compare?_of_not_integers hbinary, isNaN_of_exactValue? ha, isNaN_of_exactValue? hb]
    rfl

/-- Only a not-a-number has no order. -/
theorem compare?_eq_none_iff (a b : Number) :
    a.compare? b = none ↔ a.isNaN = true ∨ b.isNaN = true := by
  rw [← Option.not_isSome_iff_eq_none, compare?_isSome]
  cases a.isNaN <;> cases b.isNaN <;> simp

/-- Two numbers have no order just if one of them is a not-a-number. Integers are in the order of
the integers. Any two numbers stand as less or greater only if their exact values do, and as equals
whenever these are equal. The binary number that an integer is compared as is the nearest one, the
even one of two. -/
theorem compare?_respects_exact (a b : Number) :
    (a.compare? b = none ↔ a.isNaN = true ∨ b.isNaN = true) ∧
      (∀ m n, a.integer? = some m → b.integer? = some n → a.compare? b = some (compare m n)) ∧
      (∀ u v, a.exactValue? = some u → b.exactValue? = some v →
        (a.compare? b = some .lt → u < v) ∧ (a.compare? b = some .gt → v < u) ∧
          (u = v → a.compare? b = some .eq)) ∧
      ∀ m, a.integer? = some m → a.toBinary64.IsNearest m := by
  refine ⟨compare?_eq_none_iff a b, fun m n => compare?_of_integers, fun u v ha hb => ?_,
    fun m hm => ?_⟩
  · obtain ⟨i, j, ho, hle, hge⟩ := exists_compare?_eq ha hb
    rw [ho]
    refine ⟨fun h => ?_, fun h => ?_, ?_⟩
    · have hlt := Int.compare_eq_lt.mp (Option.some.inj h)
      exact not_le.mp fun hvu => absurd (hge hvu) (Int.not_le.mpr hlt)
    · have hlt := Int.compare_eq_gt.mp (Option.some.inj h)
      exact not_le.mp fun huv => absurd (hle huv) (Int.not_le.mpr hlt)
    · rintro rfl
      rw [Int.compare_eq_eq.mpr (Int.le_antisymm (hle le_rfl) (hge le_rfl))]
  · rw [toBinary64_of_integer? hm]
    exact Binary64.isNearest_ofInt (natAbs_lt_of_integer? hm)

/-- The greatest integer, which is rounded up, is below infinity, and the two zeros are equal. -/
theorem compare?_respects_exact_bounds :
    let most : Number := .unsigned 18446744073709551615
    let infinity : Number := .float ⟨false, Binary64.infinityWord, Binary64.infinityWord_lt⟩
    let zero : Number := .float ⟨false, 0, by decide⟩
    let minusZero : Number := .float ⟨true, 0, by decide⟩
    (most.integer? = some 18446744073709551615 ∧
        most.toBinary64.IsNearest 18446744073709551615) ∧
      (most.compare? infinity = some .lt ∧ infinity.exactValue? = some ⊤ ∧
        ((18446744073709551615 : ℤ) : ℝ) < (⊤ : EReal)) ∧
      (zero.exactValue? = some ((0 : ℝ) : EReal) ∧ minusZero.exactValue? = some ((0 : ℝ) : EReal) ∧
        zero.compare? minusZero = some .eq) := by
  intro most infinity zero minusZero
  have hmost : most.integer? = some 18446744073709551615 := by decide
  have hless : most.compare? infinity = some .lt := by decide +kernel
  have hinfinity : infinity.exactValue? = some ⊤ := by
    simp [infinity, exactValue?, Binary64.exactValue?, Binary64.isNaN, Binary64.isInfinite]
  have hzero : zero.exactValue? = some ((0 : ℝ) : EReal) := Binary64.exactValue?_zero false
  have hminusZero : minusZero.exactValue? = some ((0 : ℝ) : EReal) := Binary64.exactValue?_zero true
  obtain ⟨-, -, hlimits, hnearest⟩ := compare?_respects_exact most infinity
  obtain ⟨-, -, hzeros, -⟩ := compare?_respects_exact zero minusZero
  refine ⟨⟨hmost, hnearest _ hmost⟩, ⟨hless, hinfinity, ?_⟩, hzero, hminusZero, ?_⟩
  · exact (hlimits _ _ (exactValue?_of_integer? hmost) hinfinity).1 hless
  · exact (hzeros _ _ hzero hminusZero).2.2 rfl

end Number
end QueryScope
