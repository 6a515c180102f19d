import QueryScope.Decimal.Shortest

/-!
# Layouts of decimals

A layout holds the decisions that a text format makes about a number once its digits are known.
-/
namespace QueryScope.Decimal

/-- How the digits of a number are laid out. -/
structure Layout where
  /-- Which of two equally near decimals is written. -/
  tie : Tie
  /-- Whether a number whose leading digit stands at this power of ten is written without exponent.
-/
  positional : Int → Bool
  /-- What follows an integral number that is written without exponent. -/
  integralMark : String
  /-- The sign of a positive exponent. -/
  plus : String

/-- Digits with a point and no exponent. -/
def Layout.writePositional (layout : Layout) (d : Scaled) : String :=
  let digits := (toString d.significand).toList
  if 0 ≤ d.exponent then
    String.ofList (digits ++ List.replicate d.exponent.toNat '0') ++ layout.integralMark
  else
    let places := (-d.exponent).toNat
    let padded := List.replicate (places + 1 - digits.length) '0' ++ digits
    let split := padded.length - places
    String.ofList (padded.take split ++ '.' :: padded.drop split)

/-- One digit, the others after a point, and the power of ten of the first digit. -/
def Layout.writeScientific (layout : Layout) (d : Scaled) (leading : Int) : String :=
  let digits := (toString d.significand).toList
  let fraction := if digits.length = 1 then [] else '.' :: digits.drop 1
  let sign := if leading < 0 then "-" else layout.plus
  String.ofList (digits.take 1 ++ fraction) ++ "e" ++ sign ++ toString leading.natAbs

def Layout.writeScaled (layout : Layout) (d : Scaled) : String :=
  let leading : Int := d.exponent + (toString d.significand).length - 1
  if layout.positional leading then layout.writePositional d else layout.writeScientific d leading

def Layout.write (layout : Layout) (x : Binary64) : String :=
  if x.isNaN then "NaN"
  else
    let sign := if x.negative then "-" else ""
    if x.isInfinite then sign ++ "inf"
    else sign ++ layout.writeScaled (shortest layout.tie x.magnitude)

/-- Plain text: never an exponent, and no point in an integral number. -/
def Layout.plain : Layout where
  tie := .up
  positional := fun _ => true
  integralMark := ""
  plus := ""

/-- Descriptions of values: a point in every number that is written without exponent. -/
def Layout.descriptive : Layout where
  tie := .up
  positional := fun leading => -4 ≤ leading && leading < 16
  integralMark := ".0"
  plus := ""

/-- Document text: a point in every number that is written without exponent, and a sign on every
exponent. -/
def Layout.document : Layout where
  tie := .even
  positional := fun leading => -5 ≤ leading && leading < 16
  integralMark := ".0"
  plus := "+"

end QueryScope.Decimal
