/-!
# Binary floating numbers

A number of the 64-bit binary format is kept as its sign and the word of its remaining 63 bits.
Measured in units of `2 ^ (-1074)` every finite magnitude is a natural number, so order and rounding
are questions about natural numbers: `rank` orders the numbers and `nearestWord` rounds to them.
-/
namespace QueryScope

/-- How many words without sign there are: two to the 63. -/
def Binary64.wordCount : Nat := 0x8000000000000000

/-- A 64-bit binary floating number: the sign, and exponent and fraction fields read as one word. -/
structure Binary64 where
  negative : Bool
  magnitude : Fin Binary64.wordCount
  deriving DecidableEq

/-- The quotient rounded to the nearest integer, a half going to the even neighbour. -/
def roundHalfEven (num den : Nat) : Nat :=
  if 2 * (num % den) < den ∨ 2 * (num % den) = den ∧ num / den % 2 = 0 then num / den
  else num / den + 1

namespace Binary64

/-- How many words share an exponent field: two to the 52. -/
def wordsPerExponent : Nat := 0x10000000000000

/-- The word of the infinities; larger words are not numbers. -/
def infinityWord : Nat := 2047 * wordsPerExponent

/-- The word of the not-a-number that arithmetic would produce. -/
def nanWord : Nat := infinityWord + wordsPerExponent / 2

def unitsPerOne : Nat := 1 <<< 1074

/-- The magnitude that a word denotes, in units of `2 ^ (-1074)`. -/
def units (word : Nat) : Nat :=
  let exponent := word / wordsPerExponent
  if exponent = 0 then word
  else (wordsPerExponent + word % wordsPerExponent) <<< (exponent - 1)

/-- The word nearest to `num / den` units, a half going to the even word and values past the largest
finite one to infinity. The leading 53 bits are kept; a carry out of them moves into the exponent.
-/
def nearestWord (num den : Nat) : Nat :=
  let shift := (num / den).log2 - 52
  min (shift * wordsPerExponent + roundHalfEven num (den <<< shift)) infinityWord

theorem infinityWord_lt : infinityWord < wordCount := by decide

theorem nearestWord_lt (num den : Nat) : nearestWord num den < wordCount :=
  Nat.lt_of_le_of_lt (Nat.min_le_right _ _) infinityWord_lt

def nearest (negative : Bool) (num den : Nat) : Binary64 :=
  ⟨negative, nearestWord num den, nearestWord_lt num den⟩

/-- The number nearest to an integer. -/
def ofInt (n : Int) : Binary64 := nearest (n < 0) (n.natAbs * unitsPerOne) 1

def mul (x y : Binary64) : Binary64 :=
  nearest (x.negative != y.negative) (units x.magnitude * units y.magnitude) unitsPerOne

/-- The number nearest to a quotient of two magnitudes. -/
def div (x y : Binary64) : Binary64 :=
  nearest (x.negative != y.negative) (units x.magnitude * unitsPerOne) (units y.magnitude)

def neg (x : Binary64) : Binary64 := ⟨!x.negative, x.magnitude⟩

def isNaN (x : Binary64) : Bool := infinityWord < x.magnitude.val

def isInfinite (x : Binary64) : Bool := x.magnitude.val = infinityWord

def isZero (x : Binary64) : Bool := x.magnitude.val = 0

/-- The place of a number in the order of all numbers; both zeros have place zero. -/
def rank (x : Binary64) : Int := if x.negative then -x.magnitude.val else x.magnitude.val

/-- The order of two numbers; a not-a-number has none. -/
def compare? (x y : Binary64) : Option Ordering :=
  if x.isNaN || y.isNaN then none else some (compare x.rank y.rank)

/-- Numeric equality: the two zeros are the same number, and a not-a-number is not even itself. -/
def same (x y : Binary64) : Bool := x.compare? y == some .eq

def ofBits (word : UInt64) : Binary64 :=
  ⟨wordCount ≤ word.toNat, word.toNat % wordCount, Nat.mod_lt _ (by decide)⟩

def toBits (x : Binary64) : UInt64 :=
  UInt64.ofNat ((if x.negative then wordCount else 0) + x.magnitude.val)

/-- Sign and word together are the whole of a binary number. -/
theorem ofBits_toBits (x : Binary64) : ofBits x.toBits = x := by
  obtain ⟨negative, word, hword⟩ := x
  have hlt : word < 0x8000000000000000 := hword
  simp only [ofBits, toBits, mk.injEq, Fin.mk.injEq]
  cases negative
  · simp [wordCount]
    omega
  · simp [wordCount]
    omega

/-- The number with the given 32-bit interchange word; every such number is also a 64-bit one. -/
def ofBits32 (word : UInt32) : Binary64 :=
  let negative : Bool := 0x80000000 ≤ word.toNat
  let low := word.toNat % 0x80000000
  if 0x7f800000 < low then ⟨negative, nanWord, by decide⟩
  else if low = 0x7f800000 then ⟨negative, infinityWord, infinityWord_lt⟩
  else
    let exponent := low / 0x800000
    let small := if exponent = 0 then low else (0x800000 + low % 0x800000) <<< (exponent - 1)
    nearest negative (small <<< 925) 1

end Binary64
end QueryScope
