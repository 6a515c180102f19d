import QueryScope.Operator
import QueryScope.OrderSpec

/-!
# Failures

Everything that can be wrong with a filter, an order, a scope or a dataset. A failure is found while
a query is put together; running one never fails.
-/
namespace QueryScope

/-- Why a document is no filter. -/
inductive FilterFault where
  /-- A filter is an object. -/
  | notAnObject (document : Json)
  /-- No literal is, or has inside it, an object. -/
  | notALiteral (document : Json)
  /-- An operator call has one entry, the name of the operator and its operand. -/
  | notACall (name : String)

def FilterFault.message : FilterFault → String
  | .notAnObject document =>
    "expected an object of attribute/value pairs, got " ++ document.compact
  | .notALiteral document => document.compact ++ " is not a literal value"
  | .notACall name =>
    "operator call for " ++ Text.quote name ++ " must have exactly one key"

/-- What went wrong. -/
inductive Failure where
  | unknownOperator (name : String)
  | invalidOrder (spec : OrderSpec) (fault : OrderFault)
  | emptyAttribute
  | listExpected (operator : Operator)
  | missingFilter
  | malformedFilter (fault : FilterFault)
  | emptyNegation
  | unsupportedOperator (dialect : String) (operator : Operator)
  | notASequence (found : Json)
  | notAMapping (index : Nat)
  | unreadableDocument

def Failure.message : Failure → String
  | .unknownOperator name => "unknown operator '" ++ name ++ "'"
  | .invalidOrder spec fault => "invalid order " ++ spec.text ++ ": " ++ fault.message
  | .emptyAttribute => "invalid attribute name " ++ Text.quote ""
  | .listExpected operator =>
    "invalid operand for '" ++ operator.name ++ "': expected a list of candidate values"
  | .missingFilter => "a filter or a block is required"
  | .malformedFilter fault => "malformed filter: " ++ fault.message
  | .emptyNegation => "a negation scope requires at least one child scope"
  | .unsupportedOperator dialect operator =>
    "dialect '" ++ dialect ++ "' does not support operator '" ++ operator.name ++ "'"
  | .notASequence found => "expected a sequence of records, found " ++ found.kindName
  | .notAMapping index => "record at index " ++ toString index ++ " is not a mapping"
  | .unreadableDocument => "invalid JSON"

end QueryScope
