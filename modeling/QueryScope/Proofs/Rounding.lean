import Mathlib.Algebra.Group.Nat.Defs
import Mathlib.Data.Nat.Log
import QueryScope.Binary64

/-!
# Rounding keeps order

Rounding to binary numbers never reverses the order of two magnitudes, and neither does the step
from integers to binary numbers. Where both magnitudes keep the same number of leading bits this is
rounding of quotients. Otherwise the kept bits tell them apart: a carry takes the smaller one at
most to the first word that the larger one can reach.
-/
namespace QueryScope

theorem div_le_roundHalfEven (num den : Nat) : num / den ≤ roundHalfEven num den := by
  unfold roundHalfEven
  split <;> omega

theorem roundHalfEven_le (num den : Nat) : roundHalfEven num den ≤ num / den + 1 := by
  unfold roundHalfEven
  split <;> omega

/-- Rounding to the even neighbour keeps the order of the numerators. -/
theorem roundHalfEven_mono {m n : Nat} (h : m ≤ n) (den : Nat) :
    roundHalfEven m den ≤ roundHalfEven n den := by
  rcases (Nat.div_le_div_right (c := den) h).lt_or_eq with hlt | heq
  · calc roundHalfEven m den ≤ m / den + 1 := roundHalfEven_le m den
      _ ≤ n / den := hlt
      _ ≤ roundHalfEven n den := div_le_roundHalfEven n den
  · -- with equal quotients the remainders are in order
    have hm := Nat.div_add_mod m den
    have hn := Nat.div_add_mod n den
    rw [heq] at hm
    have hrest : m % den ≤ n % den := by omega
    unfold roundHalfEven
    rw [heq]
    split <;> split <;> omega

/-- A quotient does not depend on how its fraction is written. -/
theorem roundHalfEven_mul_right {k : Nat} (hk : 0 < k) (num den : Nat) :
    roundHalfEven (num * k) (den * k) = roundHalfEven num den := by
  unfold roundHalfEven
  simp only [Nat.mul_div_mul_right _ _ hk, Nat.mul_mod_mul_right, ← Nat.mul_assoc,
    Nat.mul_lt_mul_right hk, Nat.mul_left_inj hk.ne']

namespace Binary64

/-- How many bits of a quotient are dropped to keep its leading 53. -/
def droppedBits (q : Nat) : Nat := q.log2 - 52

theorem droppedBits_mono {p q : Nat} (h : p ≤ q) : droppedBits p ≤ droppedBits q := by
  have hlog : p.log2 ≤ q.log2 := by
    rw [Nat.log2_eq_log_two, Nat.log2_eq_log_two]
    exact Nat.log_mono_right h
  unfold droppedBits
  omega

theorem keptBits_lt (q : Nat) : q / 2 ^ droppedBits q < 2 ^ 53 := by
  rw [Nat.div_lt_iff_lt_mul (Nat.two_pow_pos _), ← Nat.pow_add]
  calc q < 2 ^ (q.log2 + 1) := Nat.lt_log2_self
    _ ≤ 2 ^ (53 + droppedBits q) := by
      apply Nat.pow_le_pow_right (by decide)
      unfold droppedBits
      omega

theorem le_keptBits {q : Nat} (h : 0 < droppedBits q) : 2 ^ 52 ≤ q / 2 ^ droppedBits q := by
  have hlog : droppedBits q + 52 = q.log2 := by
    unfold droppedBits at h ⊢
    omega
  have hq : q ≠ 0 := by
    rintro rfl
    simp [droppedBits] at h
  rw [Nat.le_div_iff_mul_le (Nat.two_pow_pos _), ← Nat.pow_add, Nat.add_comm, hlog]
  exact Nat.log2_self_le hq

theorem nearestWord_eq (num den : Nat) :
    nearestWord num den =
      min (droppedBits (num / den) * wordsPerExponent +
        roundHalfEven num (den * 2 ^ droppedBits (num / den))) infinityWord := by
  rw [nearestWord, Nat.shiftLeft_eq]
  rfl

/-- The nearest word keeps the order of the numerators. -/
theorem nearestWord_mono {m n : Nat} (h : m ≤ n) (den : Nat) :
    nearestWord m den ≤ nearestWord n den := by
  have hquot : m / den ≤ n / den := Nat.div_le_div_right h
  have hword :
      droppedBits (m / den) * wordsPerExponent +
          roundHalfEven m (den * 2 ^ droppedBits (m / den)) ≤
        droppedBits (n / den) * wordsPerExponent +
          roundHalfEven n (den * 2 ^ droppedBits (n / den)) := by
    rcases (droppedBits_mono hquot).lt_or_eq with hlt | heq
    · have hm := roundHalfEven_le m (den * 2 ^ droppedBits (m / den))
      have hn := div_le_roundHalfEven n (den * 2 ^ droppedBits (n / den))
      rw [← Nat.div_div_eq_div_mul] at hm hn
      have hkept := keptBits_lt (m / den)
      have hfirst := le_keptBits (Nat.zero_lt_of_lt hlt)
      unfold wordsPerExponent
      omega
    · rw [heq]
      exact Nat.add_le_add_left (roundHalfEven_mono h _) _
  rw [nearestWord_eq, nearestWord_eq]
  omega

/-- The nearest word is that of the ratio, whatever the terms of the fraction. -/
theorem nearestWord_mul_right {k : Nat} (hk : 0 < k) (num den : Nat) :
    nearestWord (num * k) (den * k) = nearestWord num den := by
  rw [nearestWord_eq, nearestWord_eq, Nat.mul_div_mul_right _ _ hk, Nat.mul_right_comm den,
    roundHalfEven_mul_right hk]

/-- Fractions are rounded in the order of their values. -/
theorem nearestWord_le_nearestWord {m n b d : Nat} (hb : 0 < b) (hd : 0 < d) (h : m * d ≤ n * b) :
    nearestWord m b ≤ nearestWord n d :=
  calc nearestWord m b = nearestWord (m * d) (b * d) := (nearestWord_mul_right hd m b).symm
    _ ≤ nearestWord (n * b) (b * d) := nearestWord_mono h _
    _ = nearestWord (n * b) (d * b) := by rw [Nat.mul_comm b]
    _ = nearestWord n d := nearestWord_mul_right hb n d

theorem isNaN_nearest (negative : Bool) (num den : Nat) :
    (nearest negative num den).isNaN = false :=
  decide_eq_false (Nat.not_lt.mpr (Nat.min_le_right _ _))

theorem isNaN_ofInt (n : Int) : (ofInt n).isNaN = false := isNaN_nearest _ _ _

/-- The place of the number nearest to a number of units, which has a sign. -/
def roundedRank (c : Int) : Int :=
  if c < 0 then -nearestWord c.natAbs 1 else nearestWord c.natAbs 1

theorem roundedRank_mono {c d : Int} (h : c ≤ d) : roundedRank c ≤ roundedRank d := by
  have word {k l : Nat} (hkl : k ≤ l) : nearestWord k 1 ≤ nearestWord l 1 := nearestWord_mono hkl 1
  unfold roundedRank
  split <;> split
  · have := word (show d.natAbs ≤ c.natAbs by omega)
    omega
  · omega
  · omega
  · have := word (show c.natAbs ≤ d.natAbs by omega)
    omega

/-- The conversion of an integer stands at its rounded place. -/
theorem rank_ofInt (n : Int) : (ofInt n).rank = roundedRank (n * unitsPerOne) := by
  have hneg : n * unitsPerOne < 0 ↔ n < 0 := by
    constructor
    · intro h
      by_contra hn
      have := Int.mul_nonneg (Int.not_lt.mp hn) (Int.natCast_nonneg unitsPerOne)
      omega
    · exact fun h => Int.mul_neg_of_neg_of_pos h (by decide)
  rw [roundedRank, Int.natAbs_mul, Int.natAbs_natCast]
  simp [ofInt, nearest, rank, hneg]

/-- An integer that is not greater than another one is not rounded to a greater number. -/
theorem rank_ofInt_mono {m n : Int} (h : m ≤ n) : (ofInt m).rank ≤ (ofInt n).rank := by
  rw [rank_ofInt, rank_ofInt]
  exact roundedRank_mono (Int.mul_le_mul_of_nonneg_right h (Int.natCast_nonneg unitsPerOne))

end Binary64
end QueryScope
