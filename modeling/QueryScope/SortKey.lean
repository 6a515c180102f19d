import QueryScope.Record

/-!
# Sort keys

A list of sort keys orders records: the first key on which two records differ decides.
-/
namespace QueryScope

inductive Direction where
  | ascending
  | descending
  deriving DecidableEq

/-- A text that names no direction. -/
structure UnknownDirection where
  text : String
  deriving DecidableEq

def UnknownDirection.message (e : UnknownDirection) : String :=
  "unknown direction " ++ Text.quote e.text

namespace Direction

def name : Direction → String
  | .ascending => "asc"
  | .descending => "desc"

/-- The direction that a text names, in any case of its ASCII letters. -/
def parse (text : String) : Except UnknownDirection Direction :=
  match text.toLower with
  | "asc" | "ascending" => .ok .ascending
  | "desc" | "descending" => .ok .descending
  | _ => .error ⟨text⟩

/-- The order in a direction. Descending swaps each comparison and leaves ties alone. -/
def apply : Direction → Ordering → Ordering
  | .ascending, o => o
  | .descending, o => o.swap

end Direction

/-- An attribute to sort by, and the direction. -/
structure SortKey where
  name : String
  direction : Direction
  deriving DecidableEq

namespace SortKey

def compareValues (key : SortKey) (a b : Value) : Ordering :=
  key.direction.apply (a.compareTotal b)

/-- The order of two records by one key. -/
def compareRecords [Record ρ] (key : SortKey) (a b : ρ) : Ordering :=
  key.compareValues (Record.value a key.name) (Record.value b key.name)

/-- The order of two records by a list of keys: that of the first key on which they differ. -/
def compareAll [Record ρ] (keys : List SortKey) (a b : ρ) : Ordering :=
  match keys with
  | [] => .eq
  | key :: rest => (key.compareRecords a b).then (compareAll rest a b)

end SortKey
end QueryScope
