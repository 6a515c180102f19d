import QueryScope.Failure

/-!
# Criteria

A criterion compares one attribute of a record with a literal. A list of criteria is read in two
ways: as a conjunction, and, when it stands for a negated list, as a disjunction of negated
complements. The second reading is the exact complement of the first also where values do not
compare.
-/
namespace QueryScope

/-- A condition on one attribute. -/
structure Criterion where
  name : String
  operator : Operator
  literal : Literal

namespace Criterion

/-- A criterion with a named attribute and an operand that fits its operator. The literal of an
operator that ignores it is null. -/
def make (name : String) (operator : Operator) (literal : Literal) : Except Failure Criterion :=
  if name.isEmpty then .error .emptyAttribute
  else if operator.ignoresValue then .ok ⟨name, operator, .null⟩
  else if operator.takesList && !literal.isList then .error (.listExpected operator)
  else .ok ⟨name, operator, literal⟩

/-- The criterion with the complement of its operator. -/
def invert (c : Criterion) : Criterion := { c with operator := c.operator.invert }

@[simp] theorem invert_invert (c : Criterion) : c.invert.invert = c := by simp [invert]

/-- Whether an operator holds between a value and a literal. An ordered comparison of values that do
not compare does not hold. -/
def evaluate (operator : Operator) (literal : Literal) (value : Value) : Bool :=
  match operator with
  | .equal => literal.equals value
  | .notEqual => !literal.equals value
  | .null => value.isNull
  | .notNull => !value.isNull
  | .oneOf => literal.candidates.any (·.equals value)
  | .notOneOf => !literal.candidates.any (·.equals value)
  | ordered => (literal.orderOf value).any ordered.holdsFor

def admits (c : Criterion) (value : Value) : Bool := evaluate c.operator c.literal value

/-- Whether the complement of a criterion does not admit a value. -/
def admitsNegated (c : Criterion) (value : Value) : Bool :=
  !evaluate c.operator.invert c.literal value

def accepts [Record ρ] (c : Criterion) (r : ρ) : Bool := c.admits (Record.value r c.name)

@[simp] theorem admitsNegated_invert (c : Criterion) (value : Value) :
    c.invert.admitsNegated value = !c.admits value := by
  simp [admitsNegated, admits, invert]

/-- Whether two criteria agree in all parts, literals compared by kind and numeric equality. -/
def same (a b : Criterion) : Bool :=
  a.name == b.name && a.operator == b.operator && a.literal.same b.literal

def text (c : Criterion) : String :=
  if c.operator.ignoresValue then c.name ++ " " ++ c.operator.name
  else c.name ++ " " ++ c.operator.name ++ " " ++ c.literal.text

end Criterion

abbrev Criteria := List Criterion

namespace Criteria

def invert (cs : Criteria) : Criteria := cs.map Criterion.invert

@[simp] theorem invert_invert (cs : Criteria) : cs.invert.invert = cs := by
  simp [invert, Function.comp_def]

def allAccept [Record ρ] (cs : Criteria) (r : ρ) : Bool := cs.all fun c => c.accepts r

/-- Whether the complement of some criterion does not accept a record. -/
def anyNegated [Record ρ] (cs : Criteria) (r : ρ) : Bool :=
  cs.any fun c => c.admitsNegated (Record.value r c.name)

/-- The two readings are complements of each other. -/
theorem anyNegated_invert [Record ρ] (cs : Criteria) (r : ρ) :
    cs.invert.anyNegated r = !cs.allAccept r := by
  simp only [anyNegated, invert, allAccept, List.any_map, List.not_all_eq_any_not]
  congr 1
  funext c
  exact Criterion.admitsNegated_invert c _

def same : Criteria → Criteria → Bool
  | [], [] => true
  | a :: as, b :: bs => a.same b && same as bs
  | _, _ => false

end Criteria
end QueryScope
