import QueryScope.Criterion

/-!
# Filters

A filter lists attributes with terms: a plain literal, which stands for equality, or an operator
with its operand. It can be written as a document, where an object with one entry is an operator
call. In a block the expressions are built by a method for each name of an operator, which takes
just the operand that the operator needs.
-/
namespace QueryScope

/-- What a filter says of an attribute. -/
inductive Term where
  | plain (literal : Literal)
  | expression (operator : Operator) (literal : Literal)
  /-- An operator by name, looked up when the filter is turned into criteria. -/
  | call (name : String) (literal : Literal)

/-- What the method for an operator takes: candidates, nothing, or a literal. -/
def Operator.Operand : Operator → Type
  | .oneOf | .notOneOf => List Literal
  | .null | .notNull => Unit
  | .equal | .notEqual | .greaterThan | .greaterThanOrEqualTo | .lessThan | .lessThanOrEqualTo =>
    Literal

/-- The literal that an operand stands for; null if nothing is taken. -/
def Operator.literalOf : (op : Operator) → op.Operand → Literal
  | .oneOf, items | .notOneOf, items => .list items
  | .null, _ | .notNull, _ => .null
  | .equal, literal | .notEqual, literal | .greaterThan, literal | .greaterThanOrEqualTo, literal
  | .lessThan, literal | .lessThanOrEqualTo, literal => literal

/-- The expression that the method for an operator builds. -/
def Term.built (op : Operator) (operand : op.Operand) : Term :=
  .expression op (op.literalOf operand)

/-- Attributes with terms, in order. -/
abbrev Filter := List (String × Term)

def Term.criterion (name : String) : Term → Except Failure Criterion
  | .plain literal => Criterion.make name .equal literal
  | .expression operator literal => Criterion.make name operator literal
  | .call operatorName literal =>
    match Operator.ofName? operatorName with
    | some operator => Criterion.make name operator literal
    | none => .error (.unknownOperator operatorName)

namespace Filter

def literalOfJson (document : Json) : Except Failure Literal :=
  match Literal.ofJson document with
  | .ok literal => .ok literal
  | .error found => .error (.malformedFilter (.notALiteral found))

def termOfJson (name : String) : Json → Except Failure Term
  | .object [(operatorName, operand)] => (literalOfJson operand).map (.call operatorName)
  | .object _ => .error (.malformedFilter (.notACall name))
  | document => (literalOfJson document).map .plain

def ofJson : Json → Except Failure Filter
  | .object entries => entries.mapM fun entry => (termOfJson entry.1 entry.2).map (entry.1, ·)
  | document => .error (.malformedFilter (.notAnObject document))

def criteria (filter : Filter) : Except Failure Criteria :=
  filter.mapM fun entry => entry.2.criterion entry.1

/-- The criteria of a filter, of a block of further entries, or of both. -/
def criteriaOf : (filter block : Option Filter) → Except Failure Criteria
  | none, none => .error .missingFilter
  | filter, block => criteria (filter.getD [] ++ block.getD [])

end Filter
end QueryScope
