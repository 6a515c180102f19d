import QueryScope.Decimal.Layout
import QueryScope.Json

/-!
# Numbers

Attribute values and literals hold three kinds of numbers. Integers of either kind compare exactly;
as soon as a binary number takes part, both sides are compared as binary numbers.
-/
namespace QueryScope

/-- A number: a signed or unsigned 64-bit integer, or a binary number. -/
inductive Number where
  | signed (n : Int64)
  | unsigned (n : UInt64)
  | float (x : Binary64)
  deriving DecidableEq

namespace Number

/-- The integer that a number of an integer kind holds. -/
def integer? : Number → Option Int
  | .signed n => some n.toInt
  | .unsigned n => some n.toNat
  | .float _ => none

/-- The nearest binary number. -/
def toBinary64 : Number → Binary64
  | .signed n => Binary64.ofInt n.toInt
  | .unsigned n => Binary64.ofInt n.toNat
  | .float x => x

def isNaN : Number → Bool
  | .float x => x.isNaN
  | _ => false

/-- The order of two numbers; a not-a-number has none. -/
def compare? (a b : Number) : Option Ordering :=
  match a.integer?, b.integer? with
  | some m, some n => some (compare m n)
  | _, _ => a.toBinary64.compare? b.toBinary64

/-- Whether a number is less than another; a not-a-number never is. -/
def isLess (a b : Number) : Bool := a.compare? b == some .lt

/-- Whether a number is at least as great as another; a not-a-number never is. -/
def isAtLeast (a b : Number) : Bool := a.compare? b == some .gt || a.compare? b == some .eq

/-- Whether two numbers are of one kind and equal within it. -/
def same : Number → Number → Bool
  | .signed m, .signed n => m == n
  | .unsigned m, .unsigned n => m == n
  | .float x, .float y => x.same y
  | _, _ => false

def text : Number → String
  | .signed n => toString n.toInt
  | .unsigned n => toString n.toNat
  | .float x => Decimal.Layout.plain.write x

/-- The number that a number of a document stands for: signed if that kind can hold it. -/
def ofJson : JsonNumber → Number
  | .natural n => if n < 0x8000000000000000 then .signed (Int64.ofNat n.toNat) else .unsigned n
  | .negative n => .signed n
  | .float x => .float x

end Number
end QueryScope
