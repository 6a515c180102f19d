/-!
# Operators

The fixed vocabulary of comparisons, their names and their complements.
-/
namespace QueryScope

inductive Operator where
  | equal
  | notEqual
  | greaterThan
  | greaterThanOrEqualTo
  | lessThan
  | lessThanOrEqualTo
  | null
  | notNull
  | oneOf
  | notOneOf
  deriving DecidableEq

namespace Operator

/-- Every operator, in the order of their listing. -/
def all : List Operator :=
  [.equal, .notEqual, .greaterThan, .greaterThanOrEqualTo, .lessThan, .lessThanOrEqualTo,
   .null, .notNull, .oneOf, .notOneOf]

theorem mem_all (op : Operator) : op ∈ all := by cases op <;> decide

def name : Operator → String
  | .equal => "equal"
  | .notEqual => "not_equal"
  | .greaterThan => "greater_than"
  | .greaterThanOrEqualTo => "greater_than_or_equal_to"
  | .lessThan => "less_than"
  | .lessThanOrEqualTo => "less_than_or_equal_to"
  | .null => "null"
  | .notNull => "not_null"
  | .oneOf => "one_of"
  | .notOneOf => "not_one_of"

def alias? : Operator → Option String
  | .equal => some "eq"
  | .notEqual => some "ne"
  | .greaterThan => some "gt"
  | .greaterThanOrEqualTo => some "gte"
  | .lessThan => some "lt"
  | .lessThanOrEqualTo => some "lte"
  | _ => none

/-- The operator with a name or short name. -/
def ofName? (name : String) : Option Operator :=
  all.find? fun op => op.name == name || op.alias? == some name

/-- The operator that holds exactly when the given one does not, on values that compare. -/
def invert : Operator → Operator
  | .equal => .notEqual
  | .notEqual => .equal
  | .greaterThan => .lessThanOrEqualTo
  | .greaterThanOrEqualTo => .lessThan
  | .lessThan => .greaterThanOrEqualTo
  | .lessThanOrEqualTo => .greaterThan
  | .null => .notNull
  | .notNull => .null
  | .oneOf => .notOneOf
  | .notOneOf => .oneOf

@[simp] theorem invert_invert (op : Operator) : op.invert.invert = op := by cases op <;> rfl

/-- Whether an operator needs a list of candidates. -/
def takesList : Operator → Bool
  | .oneOf | .notOneOf => true
  | _ => false

/-- Whether an operator looks at the attribute alone. -/
def ignoresValue : Operator → Bool
  | .null | .notNull => true
  | _ => false

/-- Whether an operator compares by order. -/
def isOrdered : Operator → Bool
  | .greaterThan | .greaterThanOrEqualTo | .lessThan | .lessThanOrEqualTo => true
  | _ => false

@[simp] theorem takesList_invert (op : Operator) : op.invert.takesList = op.takesList := by
  cases op <;> rfl

@[simp] theorem ignoresValue_invert (op : Operator) :
    op.invert.ignoresValue = op.ignoresValue := by cases op <;> rfl

@[simp] theorem isOrdered_invert (op : Operator) : op.invert.isOrdered = op.isOrdered := by
  cases op <;> rfl

/-- Whether an ordered comparison holds when the attribute stands so to the literal. -/
def holdsFor (op : Operator) (order : Ordering) : Bool :=
  match op with
  | .greaterThan => order == .gt
  | .greaterThanOrEqualTo => order != .lt
  | .lessThan => order == .lt
  | .lessThanOrEqualTo => order != .gt
  | _ => false

/-- Of an ordered comparison and its complement exactly one holds. -/
theorem holdsFor_invert (op : Operator) (h : op.isOrdered = true) (order : Ordering) :
    op.invert.holdsFor order = !op.holdsFor order := by
  revert h; cases op <;> cases order <;> decide

/-- The vocabulary has no two operators under one name. -/
theorem ofName?_name (op : Operator) : ofName? op.name = some op := by cases op <;> decide

end Operator
end QueryScope
