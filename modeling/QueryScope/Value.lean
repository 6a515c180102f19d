import QueryScope.Number

/-!
# Values

What a record exposes under an attribute name. Values of one scalar kind compare with each other;
`compareTotal` extends that to all values for sorting, by a rank for each kind.
-/
namespace QueryScope

/-- A point in time, in milliseconds since the epoch. -/
structure Timestamp where
  millis : Int64
  deriving DecidableEq

namespace Timestamp

/-- The point in time the given seconds after the epoch, or the nearest one that can be held. -/
def ofSeconds (seconds : Int64) : Timestamp :=
  ⟨Int64.ofInt (max Int64.minValue.toInt (min Int64.maxValue.toInt (seconds.toInt * 1000)))⟩

def order (a b : Timestamp) : Ordering := compare a.millis.toInt b.millis.toInt

def text (t : Timestamp) : String := "@" ++ toString t.millis.toInt

end Timestamp

/-- An attribute value. A composite value is present but compares with nothing. -/
inductive Value where
  | null
  | bool (b : Bool)
  | number (n : Number)
  | string (s : String)
  | timestamp (t : Timestamp)
  | composite
  deriving DecidableEq

namespace Value

def isNull : Value → Bool
  | .null => true
  | _ => false

def string? : Value → Option String
  | .string s => some s
  | _ => none

def number? : Value → Option Number
  | .number n => some n
  | _ => none

def bool? : Value → Option Bool
  | .bool b => some b
  | _ => none

/-- The order of two values of one scalar kind; strings are ordered by code points. -/
def compare? : Value → Value → Option Ordering
  | .bool a, .bool b => some (compare a.toNat b.toNat)
  | .number a, .number b => a.compare? b
  | .string a, .string b => some (compare a b)
  | .timestamp a, .timestamp b => some (a.order b)
  | _, _ => none

/-- The place of a value's kind among the kinds; a not-a-number is a kind of its own. -/
def kindRank : Value → Nat
  | .bool _ => 0
  | .number n => if n.isNaN then 5 else 1
  | .string _ => 2
  | .timestamp _ => 3
  | .composite => 4
  | .null => 6

/-- The order of two values for sorting: their own order, or that of their kinds. -/
def compareTotal (a b : Value) : Ordering :=
  (a.compare? b).getD (compare a.kindRank b.kindRank)

/-- Whether two values are of one kind and equal within it. -/
def same : Value → Value → Bool
  | .null, .null => true
  | .bool a, .bool b => a == b
  | .number a, .number b => a.same b
  | .string a, .string b => a == b
  | .timestamp a, .timestamp b => a == b
  | .composite, .composite => true
  | _, _ => false

/-- The value of an entry of a document; arrays and objects are composite. -/
def ofJson : Json → Value
  | .null => .null
  | .bool b => .bool b
  | .number n => .number (.ofJson n)
  | .string s => .string s
  | .array _ => .composite
  | .object _ => .composite

end Value
end QueryScope
