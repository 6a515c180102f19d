import QueryScope.Json

/-!
# Numerals of documents

A numeral is read in two steps. Its digits are gathered in a 64-bit word as far as they fit; what
does not fit only counts as powers of ten. A numeral without fraction or exponent that fits is an
integer; any other is rounded to a binary number, and rounded again after one scaling by a power of
ten.
-/
namespace QueryScope

/-- The parts of a numeral; the digits are numbers below ten. -/
structure Numeral where
  negative : Bool
  integer : List Nat
  fraction : Option (List Nat)
  exponent : Option Int

namespace Numeral

/-- The leading digits of a text and what follows them. -/
def spanDigits (cs : List Char) : List Nat × List Char :=
  ((cs.takeWhile Char.isDigit).map (fun c => c.toNat - '0'.toNat), cs.dropWhile Char.isDigit)

/-- The natural number with the given decimal digits. -/
def value (digits : List Nat) : Nat := digits.foldl (fun n d => 10 * n + d) 0

/-- A fraction, if a point follows; the point needs a digit behind it. -/
def fraction? : List Char → Option (Option (List Nat) × List Char)
  | '.' :: rest =>
    match spanDigits rest with
    | ([], _) => none
    | (digits, rest) => some (some digits, rest)
  | rest => some (none, rest)

/-- The digits of an exponent, which end the numeral. -/
def exponentDigits? (rest : List Char) : Option Nat :=
  match spanDigits rest with
  | ([], _) => none
  | (digits, []) => some (value digits)
  | (_, _ :: _) => none

/-- An exponent, if one follows, and the end of the numeral. -/
def exponent? : List Char → Option (Option Int)
  | [] => some none
  | c :: rest =>
    if c = 'e' ∨ c = 'E' then
      match rest with
      | '-' :: digits => (exponentDigits? digits).map (fun n => some (-(n : Int)))
      | '+' :: digits => (exponentDigits? digits).map (fun n => some (n : Int))
      | digits => (exponentDigits? digits).map (fun n => some (n : Int))
    else none

/-- A numeral without its sign. Only the numeral of zero begins with a zero digit. -/
def unsigned? (negative : Bool) (cs : List Char) : Option Numeral := do
  let (integer, rest) := spanDigits cs
  match integer with
  | [] => none
  | 0 :: _ :: _ => none
  | _ =>
    let (fraction, rest) ← fraction? rest
    let exponent ← exponent? rest
    some ⟨negative, integer, fraction, exponent⟩

def ofChars? : List Char → Option Numeral
  | '-' :: rest => unsigned? true rest
  | cs => unsigned? false cs

/-- Digits appended to a number as long as a 64-bit word holds it, and how many were. -/
def absorb (n : Nat) : List Nat → Nat × Nat
  | [] => (n, 0)
  | d :: rest =>
    if 10 * n + d < UInt64.size then
      let (m, used) := absorb (10 * n + d) rest
      (m, used + 1)
    else (n, 0)

/-- The largest power of ten that is a finite binary number. -/
def largestPower : Nat := 308

def powerOfTen (k : Nat) : Binary64 :=
  Binary64.nearest false (Nat.pow 10 k * Binary64.unitsPerOne) 1

/-- Division by a power of ten; powers too large are divided by in steps, until zero is reached. -/
def scaleDown (x : Binary64) (k : Nat) : Binary64 :=
  if k ≤ largestPower then x.div (powerOfTen k)
  else if x.isZero then x
  else scaleDown (x.div (powerOfTen largestPower)) (k - largestPower)
termination_by k
decreasing_by simp only [largestPower] at *; omega

/-- Multiplication by a power of ten, as long as the result is finite. -/
def scaleUp? (x : Binary64) (k : Nat) : Option Binary64 :=
  if k ≤ largestPower then
    let y := x.mul (powerOfTen k)
    if y.isInfinite then none else some y
  else if x.isZero then some x
  else none

def scaled? (significand : Nat) (exponent : Int) : Option Binary64 :=
  let x := Binary64.ofInt significand
  if 0 ≤ exponent then scaleUp? x exponent.toNat else some (scaleDown x (-exponent).toNat)

/-- An integer that a 64-bit word holds. A negative zero is a binary number, and so is an integer
below the least signed word. -/
def ofWord (negative : Bool) (n : Nat) : JsonNumber :=
  if !negative then .natural (UInt64.ofNat n)
  else if n = 0 ∨ 0x8000000000000000 < n then .float (Binary64.ofInt n).neg
  else .negative (Int64.ofInt (-n))

/-- The number that a numeral denotes; none if it is too large for a binary number. -/
def number? (numeral : Numeral) : Option JsonNumber :=
  let (significand, used) := absorb 0 numeral.integer
  let dropped := numeral.integer.length - used
  match numeral.fraction, numeral.exponent, dropped with
  | none, none, 0 => some (ofWord numeral.negative significand)
  | _, _, _ =>
    let (significand, places) := absorb significand (numeral.fraction.getD [])
    (scaled? significand (dropped - places + numeral.exponent.getD 0)).map fun x =>
      .float (if numeral.negative then x.neg else x)

end Numeral

def JsonNumber.ofText? (text : String) : Option JsonNumber := do
  (← Numeral.ofChars? text.toList).number?

end QueryScope
