import QueryScope.Query

/-!
# Descriptions

The structure of a query on one line, down to the kinds of its numbers.
-/
namespace QueryScope

/-- A named structure with described fields. -/
def Text.described (name : String) (fields : List (String × String)) : String :=
  name ++ " \x7b " ++ ", ".intercalate (fields.map fun f => f.1 ++ ": " ++ f.2) ++ " \x7d"

/-- A name applied to one description. -/
def Text.wrapped (name content : String) : String := name ++ "(" ++ content ++ ")"

def Operator.describe : Operator → String
  | .equal => "Equal"
  | .notEqual => "NotEqual"
  | .greaterThan => "GreaterThan"
  | .greaterThanOrEqualTo => "GreaterThanOrEqualTo"
  | .lessThan => "LessThan"
  | .lessThanOrEqualTo => "LessThanOrEqualTo"
  | .null => "Null"
  | .notNull => "NotNull"
  | .oneOf => "OneOf"
  | .notOneOf => "NotOneOf"

def Number.describe : Number → String
  | .signed n => Text.wrapped "I64" (toString n.toInt)
  | .unsigned n => Text.wrapped "U64" (toString n.toNat)
  | .float x => Text.wrapped "F64" (Decimal.Layout.descriptive.write x)

namespace Literal

mutual

def describe : Literal → String
  | .null => "Null"
  | .bool b => Text.wrapped "Bool" (if b then "true" else "false")
  | .number n => Text.wrapped "Number" n.describe
  | .string s => Text.wrapped "String" (Text.quote s)
  | .timestamp t => Text.wrapped "Timestamp" (Text.wrapped "Timestamp" (toString t.millis.toInt))
  | .list items => Text.wrapped "List" (Text.listing (describeItems items))

def describeItems : List Literal → List String
  | [] => []
  | item :: rest => item.describe :: describeItems rest

end

end Literal

def Criterion.describe (c : Criterion) : String :=
  Text.described "Criterion"
    [("attribute", Text.quote c.name), ("operator", c.operator.describe),
     ("value", c.literal.describe)]

def Dialect.describe (d : Dialect) : String :=
  Text.described "Dialect"
    [("name", Text.quote d.name), ("operators", Text.listing (d.operators.map Operator.describe))]

namespace Scope

/-- A node by its dialect and the description of the rest. -/
def describeNode (d : Dialect) (kind : String) : String :=
  Text.described "Scope" [("dialect", d.describe), ("kind", kind)]

mutual

def describe : Scope → String
  | .all d => describeNode d "All"
  | .nothing d => describeNode d "None"
  | .unscoped d => describeNode d "Null"
  | .criteria d cs inverted =>
    describeNode d (Text.described "Criteria"
      [("criteria", Text.wrapped "Criteria" (Text.listing (cs.map Criterion.describe))),
       ("inverted", if inverted then "true" else "false")])
  | .conjunction d children =>
    describeNode d (Text.wrapped "Conjunction" (Text.listing (describeAll children)))
  | .disjunction d children =>
    describeNode d (Text.wrapped "Disjunction" (Text.listing (describeAll children)))
  | .negation d children =>
    describeNode d (Text.wrapped "Negation" (Text.listing (describeAll children)))

def describeAll : List Scope → List String
  | [] => []
  | s :: rest => s.describe :: describeAll rest

end

end Scope

namespace Query

def describeBound : Option Nat → String
  | none => "None"
  | some n => Text.wrapped "Some" (toString n)

def describe (q : Query ρ) : String :=
  Text.described "Query"
    [("records", toString q.records.length),
     ("builder", Text.described "Builder" [("dialect", q.dialect.describe)]),
     ("scope", q.scope.describe),
     ("orderings", Text.listing (q.orderings.map SortKey.describe)),
     ("limit", describeBound q.limit),
     ("offset", describeBound q.offset)]

/-- The description of the results of a query, which are described by what is asked. -/
def describeResults (q : Query ρ) : String := Text.described "Results" [("query", q.describe)]

end Query
end QueryScope
