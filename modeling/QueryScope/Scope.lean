import QueryScope.Criterion
import QueryScope.Dialect

/-!
# Scopes

A scope is a condition on records: a tree of criteria and of their conjunctions, disjunctions and
negations. Every node carries the dialect of the builder that made it.
-/
namespace QueryScope

/-- A condition on records. -/
inductive Scope where
  /-- Every record. -/
  | all (dialect : Dialect)
  /-- No record. -/
  | nothing (dialect : Dialect)
  /-- No condition yet. -/
  | unscoped (dialect : Dialect)
  /-- All criteria or, if they are inverted, the negated complement of some criterion. -/
  | criteria (dialect : Dialect) (criteria : Criteria) (inverted : Bool)
  | conjunction (dialect : Dialect) (children : List Scope)
  | disjunction (dialect : Dialect) (children : List Scope)
  /-- Some child does not hold. -/
  | negation (dialect : Dialect) (children : List Scope)

namespace Scope

def dialect : Scope → Dialect
  | .all d => d
  | .nothing d => d
  | .unscoped d => d
  | .criteria d _ _ => d
  | .conjunction d _ => d
  | .disjunction d _ => d
  | .negation d _ => d

def kindName : Scope → String
  | .all _ => "all"
  | .nothing _ => "none"
  | .unscoped _ => "null"
  | .criteria _ _ _ => "criteria"
  | .conjunction _ _ => "conjunction"
  | .disjunction _ _ => "disjunction"
  | .negation _ _ => "negation"

def children : Scope → List Scope
  | .conjunction _ children => children
  | .disjunction _ children => children
  | .negation _ children => children
  | _ => []

def criteria? : Scope → Option Criteria
  | .criteria _ cs _ => some cs
  | _ => none

/-- Whether a scope carries no condition. Composition leaves the other side as it is. -/
def isEmpty : Scope → Bool
  | .unscoped _ => true
  | .criteria _ cs _ => cs.isEmpty
  | .conjunction _ children => children.isEmpty
  | .disjunction _ children => children.isEmpty
  | _ => false

mutual

/-- Whether a record satisfies a scope. -/
def accepts [Record ρ] (r : ρ) : Scope → Bool
  | .all _ => true
  | .nothing _ => false
  | .unscoped _ => true
  | .criteria _ cs inverted => if inverted then cs.anyNegated r else cs.allAccept r
  | .conjunction _ children => allAccept r children
  | .disjunction _ children => anyAccepts r children
  | .negation _ children => !allAccept r children

def allAccept [Record ρ] (r : ρ) : List Scope → Bool
  | [] => true
  | child :: rest => accepts r child && allAccept r rest

def anyAccepts [Record ρ] (r : ρ) : List Scope → Bool
  | [] => false
  | child :: rest => accepts r child || anyAccepts r rest

end

@[simp] theorem allAccept_eq [Record ρ] (r : ρ) (scopes : List Scope) :
    allAccept r scopes = scopes.all (accepts r) := by
  induction scopes with
  | nil => rfl
  | cons s rest ih => simp [allAccept, ih]

@[simp] theorem anyAccepts_eq [Record ρ] (r : ρ) (scopes : List Scope) :
    anyAccepts r scopes = scopes.any (accepts r) := by
  induction scopes with
  | nil => rfl
  | cons s rest ih => simp [anyAccepts, ih]

mutual

/-- Whether two scopes agree in structure and dialects, literals compared by kind and numeric
equality. -/
def same : Scope → Scope → Bool
  | .all d, .all e => d == e
  | .nothing d, .nothing e => d == e
  | .unscoped d, .unscoped e => d == e
  | .criteria d cs i, .criteria e ds j => d == e && (cs.same ds && i == j)
  | .conjunction d ss, .conjunction e ts => d == e && sameAll ss ts
  | .disjunction d ss, .disjunction e ts => d == e && sameAll ss ts
  | .negation d ss, .negation e ts => d == e && sameAll ss ts
  | _, _ => false

def sameAll : List Scope → List Scope → Bool
  | [], [] => true
  | s :: ss, t :: ts => same s t && sameAll ss ts
  | _, _ => false

end

mutual

def text : Scope → String
  | .all _ => "all"
  | .nothing _ => "none"
  | .unscoped _ => "null"
  | .criteria _ cs inverted =>
    Text.grouped (if inverted then " OR " else " AND ") (cs.map Criterion.text)
  | .conjunction _ children => Text.grouped " AND " (texts children)
  | .disjunction _ children => Text.grouped " OR " (texts children)
  | .negation _ children => "NOT " ++ Text.grouped " AND " (texts children)

def texts : List Scope → List String
  | [] => []
  | s :: rest => s.text :: texts rest

end

end Scope
end QueryScope
