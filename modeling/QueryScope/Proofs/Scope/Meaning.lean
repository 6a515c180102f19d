import QueryScope.Scope

/-!
# What a scope says of a record

The equations of evaluation, one for each kind of node, and `permits`: how a scope bears on a record
when it narrows other scopes. There a scope without a condition bears on none, even if, like a
disjunction of nothing, it accepts no record by itself.
-/
namespace QueryScope

theorem Criteria.allAccept_append {ρ : Type u} [Record ρ] (cs ds : Criteria) (r : ρ) :
    Criteria.allAccept (cs ++ ds) r = (cs.allAccept r && ds.allAccept r) := List.all_append

theorem Criteria.allAccept_invert {ρ : Type u} [Record ρ] (cs : Criteria) (r : ρ) :
    cs.invert.allAccept r = !cs.anyNegated r := by
  have h := Criteria.anyNegated_invert cs.invert r
  rw [Criteria.invert_invert] at h
  rw [h, Bool.not_not]

namespace Scope

variable {ρ : Type u} [Record ρ] (r : ρ) (d : Dialect)

@[simp] theorem accepts_all : accepts r (.all d) = true := rfl

@[simp] theorem accepts_nothing : accepts r (.nothing d) = false := rfl

@[simp] theorem accepts_unscoped : accepts r (.unscoped d) = true := rfl

@[simp] theorem accepts_criteria (cs : Criteria) (inverted : Bool) :
    accepts r (.criteria d cs inverted) =
      if inverted then cs.anyNegated r else cs.allAccept r := rfl

@[simp] theorem accepts_conjunction (children : List Scope) :
    accepts r (.conjunction d children) = children.all (accepts r) := allAccept_eq r children

@[simp] theorem accepts_disjunction (children : List Scope) :
    accepts r (.disjunction d children) = children.any (accepts r) := anyAccepts_eq r children

@[simp] theorem accepts_negation (children : List Scope) :
    accepts r (.negation d children) = !children.all (accepts r) :=
  congrArg Bool.not (allAccept_eq r children)

/-- Whether a scope lets a record through: it accepts it or carries no condition. -/
def permits (r : ρ) (s : Scope) : Bool := s.isEmpty || accepts r s

@[simp] theorem permits_all : permits r (.all d) = true := rfl

@[simp] theorem permits_nothing : permits r (.nothing d) = false := rfl

variable {s : Scope}

theorem permits_of_isEmpty (h : s.isEmpty = true) : permits r s = true := by
  simp [permits, h]

theorem permits_of_not_isEmpty (h : s.isEmpty = false) : permits r s = accepts r s := by
  simp [permits, h]

end Scope
end QueryScope
