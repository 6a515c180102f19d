import QueryScope.Scope.Build

/-!
# Composing scopes

Scopes are joined by and, or and not. The result is kept flat: criteria merge into one node,
conjunctions and disjunctions take in operands of their own kind, and scopes of every record, of no
record or without a condition fold away.
-/
namespace QueryScope.Dialect

/-- The children of a conjunction with criteria added: they join the last child if it is a node of
plain criteria. -/
def appendCriteria (d : Dialect) (children : List Scope) (cs : Criteria) (added : Scope) :
    Except Failure (List Scope) :=
  match children.getLast? with
  | some (.criteria _ last false) => do
    let merged ← d.criteriaScope (last ++ cs) false
    return children.dropLast ++ [merged]
  | _ => .ok (children ++ [added])

/-- The conjunction of two scopes of the dialect that both carry a condition and are neither every
record nor no record. -/
def joinAnd (d : Dialect) (scope other : Scope) : Except Failure Scope :=
  match scope, other with
  | .criteria _ left false, .criteria _ right false => d.criteriaScope (left ++ right) false
  | .conjunction _ left, .conjunction _ right => d.conjunctionScope (left ++ right)
  | .conjunction _ children, .criteria _ cs false => do
    d.conjunctionScope (← d.appendCriteria children cs other)
  | .conjunction _ children, _ => d.conjunctionScope (children ++ [other])
  | _, .conjunction _ children => d.conjunctionScope (scope :: children)
  | _, _ => d.conjunctionScope [scope, other]

def meet (d : Dialect) (scope other : Scope) : Except Failure Scope :=
  if other.isEmpty then .ok scope
  else
    match scope, other with
    | .nothing _, _ => .ok (.nothing d)
    | _, .nothing _ => .ok (.nothing d)
    | .all _, _ => .ok other
    | _, .all _ => .ok scope
    | _, _ => if scope.isEmpty then .ok other else d.joinAnd scope other

/-- The disjunction of two scopes of the dialect that both carry a condition and are neither every
record nor no record. -/
def joinOr (d : Dialect) (scope other : Scope) : Except Failure Scope :=
  match scope, other with
  | .disjunction _ left, .disjunction _ right => d.disjunctionScope (left ++ right)
  | .disjunction _ children, _ => d.disjunctionScope (children ++ [other])
  | _, .disjunction _ children => d.disjunctionScope (scope :: children)
  | _, _ => d.disjunctionScope [scope, other]

def union (d : Dialect) (scope other : Scope) : Except Failure Scope :=
  if other.isEmpty then .ok scope
  else
    match scope, other with
    | .all _, _ => .ok (.all d)
    | _, .all _ => .ok (.all d)
    | .nothing _, _ => .ok other
    | _, .nothing _ => .ok scope
    | _, _ => if scope.isEmpty then .ok other else d.joinOr scope other

/-- The complement of a scope of the dialect, no deeper than it has to be. A scope without a
condition has none. -/
def complement (d : Dialect) (scope : Scope) : Except Failure Scope :=
  if scope.isEmpty then .ok (.unscoped d)
  else
    match scope with
    | .all _ => .ok (.nothing d)
    | .nothing _ => .ok (.all d)
    | .unscoped _ => .ok (.unscoped d)
    | .criteria _ cs inverted => d.criteriaScope cs.invert (!inverted)
    | .negation _ [only] => .ok only
    | .negation _ children => d.conjunctionScope children
    | .conjunction _ children => d.negationScope children
    | .disjunction _ _ => d.negationScope [scope]

def and (d : Dialect) (scope other : Scope) : Except Failure Scope := do
  let scope ← d.translate scope
  let other ← d.translate other
  d.meet scope other

def or (d : Dialect) (scope other : Scope) : Except Failure Scope := do
  let scope ← d.translate scope
  let other ← d.translate other
  d.union scope other

def not (d : Dialect) (scope other : Scope) : Except Failure Scope := do
  let scope ← d.translate scope
  let other ← d.translate other
  if other.isEmpty then return scope
  d.and scope (← d.complement other)

def filter (d : Dialect) (scope : Scope) (filter block : Option Filter) : Except Failure Scope := do
  let built ← d.filterScope filter block
  d.and scope built

end QueryScope.Dialect

namespace QueryScope.Scope

def and (scope other : Scope) : Except Failure Scope := scope.dialect.and scope other

def or (scope other : Scope) : Except Failure Scope := scope.dialect.or scope other

def not (scope other : Scope) : Except Failure Scope := scope.dialect.not scope other

def filter (scope : Scope) (filter block : Option Filter) : Except Failure Scope :=
  scope.dialect.filter scope filter block

end QueryScope.Scope
