import Mathlib.Algebra.Group.Nat.Defs
import QueryScope.Json.Numeral

/-!
# How numerals are spelled

A numeral is spelled by the digits before its point, by those behind it if there is a point, and by
an exponent. Each part ends where a character follows that it cannot hold, so the parts of a
spelling are found again.
-/
namespace QueryScope.Numeral

variable {c : Char} {cs digits rest tail : List Char} {fraction : Option (List Char)}
variable {negative : Bool} {n : Nat}

/-- The number that a character stands for as a digit. -/
def digit (c : Char) : Nat := c.toNat - '0'.toNat

theorem eq_of_digit_eq_zero (hc : c.isDigit = true) (h : digit c = 0) : c = '0' := by
  simp only [Char.isDigit, Bool.and_eq_true, decide_eq_true_eq, ge_iff_le,
    UInt32.le_iff_toNat_le] at hc
  have hfirst : 48 ≤ c.toNat := hc.1
  have hzero : c.toNat - 48 = 0 := h
  rw [← Char.ofNat_toNat c, show c.toNat = 48 by omega]

def EndsDigits (rest : List Char) : Prop := ∀ c ∈ rest.head?, c.isDigit = false

/-- Digits are read up to the first character that is none. -/
theorem spanDigits_append (hdigits : ∀ c ∈ digits, c.isDigit = true) (hrest : EndsDigits rest) :
    spanDigits (digits ++ rest) = (digits.map digit, rest) := by
  have hnone : rest.takeWhile Char.isDigit = [] ∧ rest.dropWhile Char.isDigit = rest := by
    cases rest with
    | nil => exact ⟨rfl, rfl⟩
    | cons c rest => simp [hrest c rfl]
  rw [spanDigits, List.takeWhile_append_of_pos hdigits, List.dropWhile_append_of_pos hdigits,
    hnone.1, hnone.2, List.append_nil]
  rfl

/-! Values of digits. -/

theorem foldl_eq (b : List Nat) (n : Nat) :
    b.foldl (fun m d => 10 * m + d) n = n * 10 ^ b.length + value b := by
  induction b generalizing n with
  | nil => simp [value]
  | cons d b ih =>
    rw [value, List.foldl_cons, List.foldl_cons, ih, ih, List.length_cons, Nat.pow_succ',
      Nat.add_mul, Nat.add_mul, Nat.mul_zero, Nat.zero_mul, Nat.zero_add, Nat.mul_left_comm,
      Nat.mul_assoc, Nat.add_assoc]

/-- The digits in front count by the power of ten of those behind. -/
theorem value_append (a b : List Nat) : value (a ++ b) = value a * 10 ^ b.length + value b := by
  rw [value, List.foldl_append, foldl_eq, ← value]

theorem value_zeros (k : Nat) : value (List.replicate k 0) = 0 := by
  induction k with
  | zero => rfl
  | succ k ih => rwa [List.replicate_succ]

/-- The digits of a number have it as their value. -/
theorem value_toDigits (n : Nat) : value ((Nat.toDigits 10 n).map digit) = n := by
  rw [value, List.foldl_map]
  exact Nat.ofDigitChars_toDigits (by decide) (by decide)

/-- Only the digits of zero begin with a zero. -/
theorem head?_toDigits (hn : 0 < n) : (Nat.toDigits 10 n).head? ≠ some '0' := by
  induction n using Nat.strongRecOn with
  | ind n ih =>
    rw [Nat.toDigits_eq_if (by decide)]
    split
    · rename_i hsmall
      have hdigit : ∀ n < 10, 0 < n → Nat.digitChar n ≠ '0' := by decide
      rw [List.head?_cons, ne_eq, Option.some.injEq]
      exact hdigit n hsmall hn
    · rename_i hlarge
      have hfirst := ih (n / 10) (by omega) (by omega)
      obtain ⟨c, cs, hcs⟩ := List.exists_cons_of_length_pos (Nat.length_toDigits_pos (n := n / 10))
      rw [hcs] at hfirst ⊢
      exact hfirst

/-- The digits before the point of a numeral: if a zero leads, it is the only one. -/
structure Leading (digits : List Char) : Prop where
  isDigit : ∀ c ∈ digits, c.isDigit = true
  ne_nil : digits ≠ []
  zero : digits.head? = some '0' → digits = ['0']

/-- A point and the digits behind it, if there is one. -/
def pointed : Option (List Char) → List Char
  | none => []
  | some digits => '.' :: digits

theorem endsDigits_pointed (fraction : Option (List Char)) (hend : EndsDigits tail) :
    EndsDigits (pointed fraction ++ tail) := by
  cases fraction with
  | none => exact hend
  | some f =>
    rintro _ ⟨⟩
    rfl

theorem fraction?_pointed (hfraction : ∀ f ∈ fraction, f ≠ [] ∧ ∀ c ∈ f, c.isDigit = true)
    (hend : EndsDigits tail) (hpoint : tail.head? ≠ some '.') :
    fraction? (pointed fraction ++ tail) = some (fraction.map (·.map digit), tail) := by
  cases fraction with
  | none =>
    rw [fraction?.eq_def]
    split
    · rename_i heq
      exact absurd (congrArg List.head? heq) hpoint
    · rfl
  | some f =>
    obtain ⟨hne, hdigits⟩ := hfraction f rfl
    change fraction? ('.' :: (f ++ tail)) = _
    obtain ⟨c, cs, rfl⟩ := List.exists_cons_of_ne_nil hne
    rw [fraction?, spanDigits_append hdigits hend]
    rfl

/-- Integral digits, fraction and exponent are read one after the other, up to the end. -/
theorem unsigned?_eq {exponent : Option Int} (hdigits : Leading digits)
    (hfraction : ∀ f ∈ fraction, f ≠ [] ∧ ∀ c ∈ f, c.isDigit = true)
    (hend : EndsDigits tail) (hpoint : tail.head? ≠ some '.')
    (htail : exponent? tail = some exponent) :
    unsigned? negative (digits ++ pointed fraction ++ tail) =
      some ⟨negative, digits.map digit, fraction.map (·.map digit), exponent⟩ := by
  have hspan := spanDigits_append hdigits.isDigit (endsDigits_pointed fraction hend)
  rw [unsigned?, List.append_assoc, hspan]
  dsimp only
  rw [fraction?_pointed hfraction hend hpoint]
  split
  · rename_i hnil
    exact absurd (List.map_eq_nil_iff.mp hnil) hdigits.ne_nil
  · rename_i hzero
    obtain ⟨c, cs, rfl, hc, hcs⟩ := List.map_eq_cons_iff.mp hzero
    have hfirst := eq_of_digit_eq_zero (hdigits.isDigit c List.mem_cons_self) hc
    obtain ⟨-, rfl⟩ := List.cons.inj (hdigits.zero (congrArg some hfirst))
    cases hcs
  · simp [htail]

/-- A zero that leads is the only digit before the point. -/
example : (unsigned? false "01".toList).isNone = true := by decide +kernel

/-! Exponents. -/

section

variable (hne : digits ≠ []) (hdigits : ∀ c ∈ digits, c.isDigit = true)
include hne hdigits

theorem exponentDigits?_eq : exponentDigits? digits = some (value (digits.map digit)) := by
  have hspan := spanDigits_append hdigits (show EndsDigits [] from nofun)
  rw [List.append_nil] at hspan
  obtain ⟨c, cs, rfl⟩ := List.exists_cons_of_ne_nil hne
  rw [exponentDigits?, hspan]
  rfl

theorem exponent?_minus :
    exponent? ('e' :: '-' :: digits) = some (some (-(value (digits.map digit) : Int))) := by
  simp [exponent?, exponentDigits?_eq hne hdigits]

theorem exponent?_plus :
    exponent? ('e' :: '+' :: digits) = some (some (value (digits.map digit) : Int)) := by
  simp [exponent?, exponentDigits?_eq hne hdigits]

theorem exponent?_digits :
    exponent? ('e' :: digits) = some (some (value (digits.map digit) : Int)) := by
  obtain ⟨c, cs, rfl⟩ := List.exists_cons_of_ne_nil hne
  have hc := hdigits c List.mem_cons_self
  rw [exponent?, if_pos (.inl rfl)]
  · simp [exponentDigits?_eq hne hdigits]
  · rintro _ ⟨⟩
    cases hc
  · rintro _ ⟨⟩
    cases hc

end

end QueryScope.Numeral
