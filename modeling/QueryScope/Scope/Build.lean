import QueryScope.Filter
import QueryScope.Scope

/-!
# Building scopes

A dialect builds the nodes of its scopes and takes over scopes of other dialects. Taking over keeps
the tree and fails at the first operator that the dialect does not support.
-/
namespace QueryScope.Dialect

def criteriaScope (d : Dialect) (cs : Criteria) (inverted : Bool) : Except Failure Scope :=
  match cs.find? (fun c => !d.supports c.operator) with
  | some c => .error (.unsupportedOperator d.name c.operator)
  | none => .ok (.criteria d cs inverted)

mutual

/-- A scope taken over into a dialect. One of this dialect already stays as it is. -/
def translate (d : Dialect) (scope : Scope) : Except Failure Scope :=
  if scope.dialect = d then .ok scope
  else
    match scope with
    | .all _ => .ok (.all d)
    | .nothing _ => .ok (.nothing d)
    | .unscoped _ => .ok (.unscoped d)
    | .criteria _ cs inverted => d.criteriaScope cs inverted
    | .conjunction _ children => (translateAll d children).map (.conjunction d)
    | .disjunction _ children => (translateAll d children).map (.disjunction d)
    | .negation _ [] => .error .emptyNegation
    | .negation _ (child :: rest) => (translateAll d (child :: rest)).map (.negation d)

def translateAll (d : Dialect) : List Scope → Except Failure (List Scope)
  | [] => .ok []
  | scope :: rest => do
    let scope ← translate d scope
    let rest ← translateAll d rest
    return scope :: rest

end

def conjunctionScope (d : Dialect) (scopes : List Scope) : Except Failure Scope :=
  (d.translateAll scopes).map (.conjunction d)

def disjunctionScope (d : Dialect) (scopes : List Scope) : Except Failure Scope :=
  (d.translateAll scopes).map (.disjunction d)

/-- A negation of at least one scope, of any dialects. -/
def negationScope (d : Dialect) (scopes : List Scope) : Except Failure Scope :=
  if scopes.isEmpty then .error .emptyNegation else (d.translateAll scopes).map (.negation d)

/-- The criteria of a filter, of a block of further entries, or of both. -/
def filterScope (d : Dialect) (filter block : Option Filter) : Except Failure Scope := do
  d.criteriaScope (← Filter.criteriaOf filter block) false

end QueryScope.Dialect
