import QueryScope.Binary64

/-!
# Shortest decimals

Every finite binary number is written with the fewest decimal digits that read back to it. Writing
looks at the grids of multiples of powers of ten, from coarse to fine, for the first one with a
point among the reals that round to the number, and takes the nearest such point.
-/
namespace QueryScope.Decimal

/-- Which of two equally near decimals is written. -/
inductive Tie where
  | even
  | up
  deriving DecidableEq

/-- The decimal `significand * 10 ^ exponent`. -/
structure Scaled where
  significand : Nat
  exponent : Int
  deriving DecidableEq

/-- The reals that round to the magnitude of a word, as the numerators of fractions over
`2 ^ 1075`: the ends lie halfway to the neighbouring words and belong to it if its word is even. -/
structure Interval where
  low : Nat
  middle : Nat
  high : Nat
  closed : Bool

/-- The reals that round to the magnitude of a nonzero word. -/
def Interval.ofWord (word : Nat) : Interval where
  low := Binary64.units (word - 1) + Binary64.units word
  middle := 2 * Binary64.units word
  high := Binary64.units word + Binary64.units (word + 1)
  closed := word % 2 == 0

/-- What multiplies a point of the grid with the given exponent when both sides are cleared. -/
def gridFactor (exponent : Int) : Nat := Nat.pow 10 exponent.toNat <<< 1075

/-- What multiplies a numerator when both sides are cleared. -/
def valueFactor (exponent : Int) : Nat := Nat.pow 10 (-exponent).toNat

/-- Whether `n * 10 ^ exponent` rounds to the number. -/
def Interval.contains (i : Interval) (exponent : Int) (n : Nat) : Bool :=
  let point := n * gridFactor exponent
  let low := i.low * valueFactor exponent
  let high := i.high * valueFactor exponent
  if i.closed then low ≤ point && point ≤ high else low < point && point < high

/-- Of the two neighbours of the number on a grid, the one to write, if either reads back. -/
def Interval.nearest? (i : Interval) (tie : Tie) (exponent : Int) : Option Nat :=
  let middle := i.middle * valueFactor exponent
  let below := middle / gridFactor exponent
  match i.contains exponent below, i.contains exponent (below + 1) with
  | true, true =>
    match compare (2 * middle) ((2 * below + 1) * gridFactor exponent) with
    | .lt => some below
    | .gt => some (below + 1)
    | .eq =>
      match tie with
      | .up => some (below + 1)
      | .even => some (below + below % 2)
  | true, false => some below
  | false, true => some (below + 1)
  | false, false => none

/-- The finest grid tried has this exponent; every number has a point on it or before. -/
def finestExponent : Int := -343

/-- The first hit on the grids with exponents below `finestExponent + n`, from coarse to fine. Were
there none, the number itself is a decimal with exponent -1074. -/
def Interval.search (i : Interval) (tie : Tie) (word : Nat) : Nat → Scaled
  | 0 => ⟨Binary64.units word * Nat.pow 5 1074, -1074⟩
  | n + 1 =>
    match i.nearest? tie (finestExponent + n) with
    | some significand => ⟨significand, finestExponent + n⟩
    | none => i.search tie word n

/-- The shortest decimal that reads back to a finite magnitude, the nearest of those. -/
def shortest (tie : Tie) (word : Nat) : Scaled :=
  if word = 0 then ⟨0, 0⟩ else (Interval.ofWord word).search tie word 653

end QueryScope.Decimal
