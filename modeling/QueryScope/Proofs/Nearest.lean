import Mathlib.Order.Monotone.Basic
import QueryScope.Proofs.Rounding

/-!
# Rounding goes to the nearest

A word has a scale and a significand: it is `s * wordsPerExponent + q`, and denotes `q * 2 ^ s`
units. So words are in the order of their magnitudes. Rounding takes the multiple of `2 ^ s` that is
nearest, where `s` is the scale that keeps 53 bits. No word can be nearer, because the words of
larger scales denote multiples of `2 ^ s` too, and those of smaller scales are all below the first
word of the scale.
-/
namespace QueryScope

section

variable {num den k : Nat}

/-- A multiple of the denominator is at most the one below a number, or at least the next one. -/
theorem mul_le_or_le_mul (num den k : Nat) :
    k * den ≤ num / den * den ∨ num / den * den + den ≤ k * den := by
  rcases Nat.lt_or_ge (num / den) k with h | h
  · exact .inr (Nat.succ_mul _ _ ▸ Nat.mul_le_mul_right den h)
  · exact .inl (Nat.mul_le_mul_right den h)

/-- The rounded quotient gives the nearer of the two multiples around a number. -/
theorem roundHalfEven_mul_cases (num den : Nat) :
    (roundHalfEven num den * den = num / den * den ∧ 2 * (num % den) ≤ den) ∨
      (roundHalfEven num den * den = num / den * den + den ∧ den ≤ 2 * (num % den)) := by
  unfold roundHalfEven
  split
  · exact .inl ⟨rfl, by omega⟩
  · exact .inr ⟨Nat.succ_mul _ _, by omega⟩

/-- No whole number is nearer to a quotient than the rounded one. -/
theorem roundHalfEven_nearest (hden : 0 < den) (num k : Nat) :
    ((roundHalfEven num den * den : Nat) - num : Int).natAbs ≤
      ((k * den : Nat) - num : Int).natAbs := by
  have hnum : num / den * den + num % den = num := Nat.div_add_mod' num den
  have hrest := Nat.mod_lt num hden
  have hside := mul_le_or_le_mul num den k
  have hcases := roundHalfEven_mul_cases num den
  omega

/-- Two different multiples are as near only to a number in the middle between them. -/
theorem even_roundHalfEven_of_tie (hden : 0 < den)
    (htie : ((roundHalfEven num den * den : Nat) - num : Int).natAbs =
      ((k * den : Nat) - num : Int).natAbs) :
    k * den = roundHalfEven num den * den ∨ roundHalfEven num den % 2 = 0 := by
  have hnum : num / den * den + num % den = num := Nat.div_add_mod' num den
  have hrest := Nat.mod_lt num hden
  have hside := mul_le_or_le_mul num den k
  have hcases := roundHalfEven_mul_cases num den
  by_cases hhalf : 2 * (num % den) = den
  · right
    unfold roundHalfEven
    split <;> omega
  · left
    omega

end

namespace Binary64

theorem units_of_lt {word : Nat} (h : word < wordsPerExponent) : units word = word :=
  if_pos (Nat.div_eq_of_lt h)

theorem units_fields {exponent fraction : Nat} (h : fraction < wordsPerExponent) :
    units ((exponent + 1) * wordsPerExponent + fraction) =
      (wordsPerExponent + fraction) * 2 ^ exponent := by
  have hpos : 0 < wordsPerExponent := by decide
  have hdiv : ((exponent + 1) * wordsPerExponent + fraction) / wordsPerExponent = exponent + 1 := by
    rw [Nat.add_comm, Nat.add_mul_div_right _ _ hpos, Nat.div_eq_of_lt h, Nat.zero_add]
  have hmod : ((exponent + 1) * wordsPerExponent + fraction) % wordsPerExponent = fraction := by
    rw [Nat.add_comm, Nat.add_mul_mod_self_right, Nat.mod_eq_of_lt h]
  rw [units, hdiv, hmod, Nat.shiftLeft_eq]
  rfl

/-- The magnitude of a word by its scale and significand. The first word of a scale may also be
written with the scale below. -/
theorem units_scaled {s q : Nat} (hq : q ≤ 2 * wordsPerExponent)
    (h : s = 0 ∨ wordsPerExponent ≤ q) : units (s * wordsPerExponent + q) = q * 2 ^ s := by
  by_cases hsmall : q < wordsPerExponent
  · obtain rfl : s = 0 := by omega
    rw [Nat.zero_mul, Nat.zero_add, units_of_lt hsmall, Nat.pow_zero, Nat.mul_one]
  obtain ⟨f, rfl⟩ := Nat.exists_eq_add_of_le (Nat.not_lt.mp hsmall)
  rcases (show f ≤ wordsPerExponent by omega).lt_or_eq with hlt | rfl
  · rw [← Nat.add_assoc, ← Nat.succ_mul, units_fields hlt]
  · have hnext : s * wordsPerExponent + (wordsPerExponent + wordsPerExponent) =
        (s + 1 + 1) * wordsPerExponent + 0 := by
      rw [Nat.succ_mul, Nat.succ_mul]
      omega
    rw [hnext, units_fields (by decide), Nat.pow_succ, Nat.add_zero, ← Nat.two_mul, Nat.mul_comm 2,
      Nat.mul_assoc, Nat.mul_comm 2]

/-- Every word has a scale and a significand. -/
theorem exists_scaled (word : Nat) :
    ∃ s q, word = s * wordsPerExponent + q ∧ q < 2 * wordsPerExponent ∧
      (s = 0 ∨ wordsPerExponent ≤ q) := by
  have hword := Nat.div_add_mod' word wordsPerExponent
  have hrest := Nat.mod_lt word (show 0 < wordsPerExponent by decide)
  cases hs : word / wordsPerExponent with
  | zero =>
    refine ⟨0, word, by omega, ?_, .inl rfl⟩
    rw [hs] at hword
    omega
  | succ s =>
    refine ⟨s, wordsPerExponent + word % wordsPerExponent, ?_, by omega, .inr (by omega)⟩
    rw [hs, Nat.succ_mul] at hword
    omega

/-- Greater words stand for greater numbers. -/
theorem units_strictMono : StrictMono units := by
  refine strictMono_nat_of_lt_succ fun word => ?_
  obtain ⟨s, q, rfl, hq, h⟩ := exists_scaled word
  rw [Nat.add_assoc, units_scaled hq.le h, units_scaled hq (h.imp_right Nat.le_succ_of_le)]
  exact Nat.mul_lt_mul_of_pos_right (Nat.lt_succ_self q) (Nat.two_pow_pos s)

/-- Seen from a scale, a word denotes a multiple of its power of two, or it is below the scale. -/
theorem units_cases (word s : Nat) :
    (∃ k, units word = k * 2 ^ s) ∨ (0 < s ∧ units word < wordsPerExponent * 2 ^ s) := by
  obtain ⟨t, q, rfl, hq, h⟩ := exists_scaled word
  rw [units_scaled hq.le h]
  rcases Nat.lt_or_ge t s with hts | hts
  · refine .inr ⟨Nat.zero_lt_of_lt hts, ?_⟩
    calc q * 2 ^ t < 2 * wordsPerExponent * 2 ^ t :=
        Nat.mul_lt_mul_of_pos_right hq (Nat.two_pow_pos t)
      _ = wordsPerExponent * 2 ^ (t + 1) := by
        rw [Nat.pow_succ', Nat.mul_left_comm, Nat.mul_assoc, Nat.mul_left_comm]
      _ ≤ wordsPerExponent * 2 ^ s :=
        Nat.mul_le_mul_left _ (Nat.pow_le_pow_right (by decide) hts)
  · refine .inl ⟨q * 2 ^ (t - s), ?_⟩
    rw [Nat.mul_assoc, ← Nat.pow_add, Nat.sub_add_cancel hts]

/-- The word nearest to `num / den` units, were there no largest one. -/
def unboundedWord (num den : Nat) : Nat :=
  droppedBits (num / den) * wordsPerExponent +
    roundHalfEven num (den * 2 ^ droppedBits (num / den))

theorem nearestWord_eq_min (num den : Nat) :
    nearestWord num den = min (unboundedWord num den) infinityWord :=
  nearestWord_eq num den

/-- The word found denotes the quotient rounded at the last bit kept. -/
theorem units_unboundedWord (num den : Nat) :
    units (unboundedWord num den) =
      roundHalfEven num (den * 2 ^ droppedBits (num / den)) * 2 ^ droppedBits (num / den) := by
  have hkept := keptBits_lt (num / den)
  have hcarry := roundHalfEven_le num (den * 2 ^ droppedBits (num / den))
  rw [Nat.div_div_eq_div_mul] at hkept
  refine units_scaled (by unfold wordsPerExponent; omega) ?_
  rcases Nat.eq_zero_or_pos (droppedBits (num / den)) with h | h
  · exact .inl h
  · have hfirst := le_keptBits h
    rw [Nat.div_div_eq_div_mul] at hfirst
    exact .inr (hfirst.trans (div_le_roundHalfEven _ _))

/-- No word is nearer, and if another one is as near the even one is taken. -/
theorem unboundedWord_nearest (num : Nat) {den : Nat} (hden : 0 < den) (word : Nat) :
    let distance (w : Nat) := ((units w * den : Nat) - num : Int).natAbs
    distance (unboundedWord num den) ≤ distance word ∧
      (distance (unboundedWord num den) = distance word →
        word = unboundedWord num den ∨ unboundedWord num den % 2 = 0) := by
  obtain ⟨s, hs⟩ : ∃ s, droppedBits (num / den) = s := ⟨_, rfl⟩
  have hpow : 0 < den * 2 ^ s := Nat.mul_pos hden (Nat.two_pow_pos s)
  have hscale (q : Nat) : q * 2 ^ s * den = q * (den * 2 ^ s) := by
    rw [Nat.mul_assoc, Nat.mul_comm den]
  have hunits := units_unboundedWord num den
  rw [hs] at hunits
  dsimp only
  rw [hunits, hscale]
  rcases units_cases word s with ⟨k, hk⟩ | ⟨hdropped, hlt⟩
  · rw [hk, hscale]
    refine ⟨roundHalfEven_nearest hpow num k, fun htie => ?_⟩
    rcases even_roundHalfEven_of_tie hpow htie with heq | heven
    · refine .inl (units_strictMono.injective ?_)
      rw [hunits, hk, Nat.eq_of_mul_eq_mul_right hpow heq]
    · right
      unfold unboundedWord wordsPerExponent
      rw [hs]
      omega
  · -- the first word of the scale is not above the number, and a word below it is farther away
    have hfirst : wordsPerExponent * (den * 2 ^ s) ≤ num := by
      have hkept := le_keptBits (hs ▸ hdropped)
      rw [hs, Nat.div_div_eq_div_mul] at hkept
      exact (Nat.le_div_iff_mul_le hpow).mp hkept
    have hbelow : units word * den < wordsPerExponent * (den * 2 ^ s) :=
      hscale wordsPerExponent ▸ Nat.mul_lt_mul_of_pos_right hlt hden
    have hnearest := roundHalfEven_nearest hpow num wordsPerExponent
    omega

/-- A half between two numbers goes to the one with the even word. -/
example : ofInt (2 ^ 53 + 1) = ofInt (2 ^ 53) := by decide +kernel

/-- A magnitude that a word denotes is rounded to that word. -/
theorem unboundedWord_units (word : Nat) : unboundedWord (units word) 1 = word := by
  have hnearest := (unboundedWord_nearest (units word) Nat.one_pos word).1
  dsimp only at hnearest
  exact units_strictMono.injective (by omega)

theorem natAbs_sub_le_iff {a b : Nat} (h : a < b) (c : Nat) :
    ((b - c : Int).natAbs ≤ (a - c : Int).natAbs ↔ a + b ≤ 2 * c) ∧
      ((a - c : Int).natAbs ≤ (b - c : Int).natAbs ↔ 2 * c ≤ a + b) ∧
      ((a - c : Int).natAbs = (b - c : Int).natAbs ↔ 2 * c = a + b) := by
  omega

/-- What is rounded to a word lies between the middles towards its neighbours; the middles
themselves are rounded to it if it is even. -/
theorem unboundedWord_eq_iff {num den word : Nat} (hden : 0 < den) (hpos : 0 < word) :
    unboundedWord num den = word ↔
      if word % 2 = 0 then
        (units (word - 1) + units word) * den ≤ 2 * num ∧
          2 * num ≤ (units word + units (word + 1)) * den
      else
        (units (word - 1) + units word) * den < 2 * num ∧
          2 * num < (units word + units (word + 1)) * den := by
  have hmono {v w : Nat} (h : v < w) : units v * den < units w * den :=
    Nat.mul_lt_mul_of_pos_right (units_strictMono h) hden
  have hinjective {v w : Nat} (h : units v * den = units w * den) : v = w :=
    units_strictMono.injective (Nat.eq_of_mul_eq_mul_right hden h)
  have hnearest := unboundedWord_nearest num hden
  simp only [Nat.add_mul] at hnearest ⊢
  constructor
  · rintro rfl
    have hdown := hnearest (unboundedWord num den - 1)
    have hup := hnearest (unboundedWord num den + 1)
    obtain ⟨hbelow, -, -⟩ := natAbs_sub_le_iff (hmono (Nat.sub_one_lt hpos.ne')) num
    obtain ⟨-, habove, htie⟩ :=
      natAbs_sub_le_iff (hmono (Nat.lt_add_one (unboundedWord num den))) num
    rw [hbelow] at hdown
    rw [habove, htie] at hup
    split <;> omega
  · intro hword
    have hself := hnearest word
    rcases Nat.lt_trichotomy (unboundedWord num den) word with hlt | heq | hlt
    · have hle : units (unboundedWord num den) * den ≤ units (word - 1) * den :=
        Nat.mul_le_mul_right den (units_strictMono.monotone (Nat.le_sub_one_of_lt hlt))
      obtain ⟨-, hfar, htie⟩ := natAbs_sub_le_iff (hmono hlt) num
      rw [hfar, htie] at hself
      split at hword
      · have hsame : units (unboundedWord num den) * den = units (word - 1) * den := by omega
        have hnext := hinjective hsame
        have heven := hself.2 (by omega)
        omega
      · omega
    · exact heq
    · have hle : units (word + 1) * den ≤ units (unboundedWord num den) * den :=
        Nat.mul_le_mul_right den (units_strictMono.monotone hlt)
      obtain ⟨hfar, -, htie⟩ := natAbs_sub_le_iff (hmono hlt) num
      rw [hfar, eq_comm, htie] at hself
      split at hword
      · have hsame : units (word + 1) * den = units (unboundedWord num den) * den := by omega
        have hnext := hinjective hsame
        have heven := hself.2 (by omega)
        omega
      · omega

end Binary64
end QueryScope
