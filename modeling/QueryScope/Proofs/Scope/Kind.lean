import QueryScope.Proofs.Scope.WellFormed

/-!
# Composition by kinds

Which step composition takes depends on the kinds of its operands alone. One equation for each step
says what it does by kind; the parts of the operands are then their criteria and their children.
-/
namespace QueryScope

namespace Scope

/-- The kinds of nodes that composition tells apart. -/
inductive Kind where
  | all
  | nothing
  | unscoped
  | plain
  | inverted
  | conjunction
  | disjunction
  | negation

def kind : Scope → Kind
  | .all _ => .all
  | .nothing _ => .nothing
  | .unscoped _ => .unscoped
  | .criteria _ _ false => .plain
  | .criteria _ _ true => .inverted
  | .conjunction _ _ => .conjunction
  | .disjunction _ _ => .disjunction
  | .negation _ _ => .negation

end Scope

namespace Dialect

open Scope

variable (d : Dialect) (s o : Scope)

theorem appendCriteria_nil (cs : Criteria) (added : Scope) :
    d.appendCriteria [] cs added = .ok [added] := rfl

theorem appendCriteria_concat (init : List Scope) (last : Scope) (cs : Criteria)
    (added : Scope) :
    d.appendCriteria (init ++ [last]) cs added = match last.kind with
      | .plain => (d.criteriaScope (last.ownCriteria ++ cs) false).map fun s => init ++ [s]
      | _ => .ok (init ++ [last] ++ [added]) := by
  unfold appendCriteria
  rw [List.getLast?_concat, List.dropLast_concat]
  rcases last with _ | _ | _ | ⟨_, _, _ | _⟩ | _ | _ | _ <;> rfl

theorem joinAnd_eq_by_kind :
    d.joinAnd s o = match s.kind, o.kind with
      | .plain, .plain => d.criteriaScope (s.ownCriteria ++ o.ownCriteria) false
      | .conjunction, .conjunction => d.conjunctionScope (s.children ++ o.children)
      | .conjunction, .plain =>
        d.appendCriteria s.children o.ownCriteria o >>= d.conjunctionScope
      | .conjunction, _ => d.conjunctionScope (s.children ++ [o])
      | _, .conjunction => d.conjunctionScope (s :: o.children)
      | _, _ => d.conjunctionScope [s, o] := by
  rcases s with _ | _ | _ | ⟨_, _, _ | _⟩ | _ | _ | _ <;>
    rcases o with _ | _ | _ | ⟨_, _, _ | _⟩ | _ | _ | _ <;> rfl

theorem joinOr_eq_by_kind :
    d.joinOr s o = match s.kind, o.kind with
      | .disjunction, .disjunction => d.disjunctionScope (s.children ++ o.children)
      | .disjunction, _ => d.disjunctionScope (s.children ++ [o])
      | _, .disjunction => d.disjunctionScope (s :: o.children)
      | _, _ => d.disjunctionScope [s, o] := by
  rcases s with _ | _ | _ | ⟨_, _, _ | _⟩ | _ | _ | _ <;>
    rcases o with _ | _ | _ | ⟨_, _, _ | _⟩ | _ | _ | _ <;> rfl

/-- Which branch makes a meet, by the kinds of its parts. -/
theorem meet_eq_by_kind :
    d.meet s o = if o.isEmpty then .ok s else match s.kind, o.kind with
      | .nothing, _ => .ok (.nothing d)
      | _, .nothing => .ok (.nothing d)
      | .all, _ => .ok o
      | _, .all => .ok s
      | _, _ => if s.isEmpty then .ok o else d.joinAnd s o := by
  rcases s with _ | _ | _ | ⟨_, _, _ | _⟩ | _ | _ | _ <;>
    rcases o with _ | _ | _ | ⟨_, _, _ | _⟩ | _ | _ | _ <;> rfl

theorem union_eq_by_kind :
    d.union s o = if o.isEmpty then .ok s else match s.kind, o.kind with
      | .all, _ => .ok (.all d)
      | _, .all => .ok (.all d)
      | .nothing, _ => .ok o
      | _, .nothing => .ok s
      | _, _ => if s.isEmpty then .ok o else d.joinOr s o := by
  rcases s with _ | _ | _ | ⟨_, _, _ | _⟩ | _ | _ | _ <;>
    rcases o with _ | _ | _ | ⟨_, _, _ | _⟩ | _ | _ | _ <;> rfl

/-- Which branch makes a complement, by the kind of the scope. -/
theorem complement_eq_by_kind :
    d.complement s = if s.isEmpty then .ok (.unscoped d) else match s.kind with
      | .all => .ok (.nothing d)
      | .nothing => .ok (.all d)
      | .unscoped => .ok (.unscoped d)
      | .plain => d.criteriaScope s.ownCriteria.invert true
      | .inverted => d.criteriaScope s.ownCriteria.invert false
      | .negation => match s.children with
        | [only] => .ok only
        | children => d.conjunctionScope children
      | .conjunction => d.negationScope s.children
      | .disjunction => d.negationScope [s] := by
  rcases s with _ | _ | _ | ⟨_, _, _ | _⟩ | _ | _ | ⟨_, _ | ⟨_, _ | _⟩⟩ <;> rfl

end Dialect
end QueryScope
