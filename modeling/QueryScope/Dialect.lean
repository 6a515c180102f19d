import QueryScope.Operator

/-!
# Dialects

What a backend can express: its name and the operators it supports.
-/
namespace QueryScope

/-- The language of a backend. -/
structure Dialect where
  name : String
  operators : List Operator
  deriving DecidableEq

namespace Dialect

/-- The dialect that supports every operator. -/
def basic : Dialect := ⟨"basic", Operator.all⟩

def supports (d : Dialect) (op : Operator) : Bool := d.operators.contains op

@[simp] theorem basic_supports (op : Operator) : basic.supports op = true := by
  cases op <;> decide

end Dialect
end QueryScope
