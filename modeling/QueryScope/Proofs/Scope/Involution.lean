import QueryScope.Proofs.Scope.DoubleComplement

/-!
# Trees that complements give back

The complement of a complement is often the very scope that it started from, not only one that
means the same. Criteria get their operators and their reading back, a disjunction is wrapped and
unwrapped again, and several children of a conjunction go through a negation and return. A
conjunction of a single child does not come back: its complement negates the child alone, and that
is unwrapped to the child.
-/
namespace QueryScope

namespace Scope

variable {d : Dialect} {s only : Scope}

/-- The scopes that two complements give back as the trees they were: criteria and disjunctions that
are not empty, conjunctions of at least two scopes, the negations that have one of these as their
complement, and the scope without a condition. -/
def ComesBack : Scope → Prop
  | .all _ | .nothing _ => False
  | .unscoped _ => True
  | .criteria _ cs _ => cs ≠ []
  | .disjunction _ children => children ≠ []
  | .conjunction _ children => 2 ≤ children.length
  | .negation _ children =>
    2 ≤ children.length ∨ ∃ e alternatives, children = [.disjunction e alternatives] ∧
      alternatives ≠ []

/-- A scope carries a condition and is not every record, so that joined to no condition it stays as
it is. -/
structure IsCondition (s : Scope) : Prop where
  not_isEmpty : s.isEmpty = false
  ne_all : s ≠ .all s.dialect

theorem IsCondition.condition_eq (h : s.IsCondition) : s.condition = s :=
  condition_of_not_isEmpty h.not_isEmpty h.ne_all

theorem isCondition_of_condition (h : s.condition.isEmpty = false) : s.IsCondition where
  not_isEmpty := by
    by_contra hempty
    rw [condition_of_isEmpty (by simpa using hempty)] at h
    cases h
  ne_all hall := by
    rw [hall] at h
    cases h

/-- No scope is a child of one of its children. -/
theorem notMem_children_of_mem_children (s : Scope) : ∀ t ∈ s.children, s ∉ t.children := by
  induction s using inductionOnChildren with
  | node s ih => exact fun t ht hs => ih t ht s hs ht

theorem ne_conjunction_singleton (d : Dialect) (only : Scope) : only ≠ .conjunction d [only] := by
  intro h
  have hmem : only ∈ only.children := by
    rw [h]
    exact List.mem_singleton.mpr h.symm
  exact notMem_children_of_mem_children only only hmem hmem

/-- A negation is the opposite of a disjunction only. -/
theorem opposite_eq_negation_iff :
    only.opposite = .negation d [only] ↔ ∃ children, only = .disjunction d children := by
  constructor
  · intro h
    cases only with
    | all | nothing | unscoped | criteria => cases h
    | disjunction e children =>
      cases h
      exact ⟨children, rfl⟩
    | conjunction e children =>
      have hchildren := (negation.inj h).2
      exact absurd (congrArg (conjunction e) hchildren) (ne_conjunction_singleton e _)
    | negation e children =>
      -- the only child would be a negation of the negation that it stands in
      rcases children with _ | ⟨child, _ | ⟨next, rest⟩⟩
      · cases h
      · have hchild : child = .negation d [.negation e [child]] := h
        have hmem : Scope.negation e [child] ∈ child.children := by
          rw [hchild]
          exact List.mem_singleton.mpr (by rw [← hchild])
        exact absurd hmem
          (notMem_children_of_mem_children (.negation e [child]) child List.mem_cons_self)
      · cases h
  · rintro ⟨children, rfl⟩
    rfl

/-- What comes back is a condition, has a condition as its opposite, and is the opposite of it. -/
theorem comesBack_iff (hs : s.WellFormed d) (hne : s.isEmpty = false) :
    s.ComesBack ↔ s.IsCondition ∧ s.opposite.IsCondition ∧ s.opposite.opposite = s := by
  cases s with
  | all e => exact iff_of_false nofun fun h => h.1.ne_all rfl
  | nothing e => exact iff_of_false nofun fun h => h.2.1.ne_all rfl
  | unscoped e => cases hne
  | criteria e cs inverted =>
    have hcs : cs ≠ [] := List.isEmpty_eq_false_iff.mp hne
    have hinvert : cs.invert.isEmpty = false := List.isEmpty_map.trans hne
    exact iff_of_true hcs ⟨⟨hne, nofun⟩, ⟨hinvert, nofun⟩, by simp [opposite]⟩
  | disjunction e children =>
    have hchildren : children ≠ [] := List.isEmpty_eq_false_iff.mp hne
    exact iff_of_true hchildren ⟨⟨hne, nofun⟩, ⟨rfl, nofun⟩, rfl⟩
  | conjunction e children =>
    rcases children with _ | ⟨only, _ | ⟨next, rest⟩⟩
    · cases hne
    · exact iff_of_false (by simp [ComesBack]) fun h => ne_conjunction_singleton e only h.2.2
    · exact iff_of_true (by simp [ComesBack]) ⟨⟨rfl, nofun⟩, ⟨rfl, nofun⟩, rfl⟩
  | negation e children =>
    rcases children with _ | ⟨only, _ | ⟨next, rest⟩⟩
    · exact absurd rfl (hs.here.child e)
    · obtain rfl : e = d := hs.here.dialect_eq
      have honly := (hs.of_mem_children only List.mem_cons_self).here.dialect_eq
      constructor
      · rintro (h | ⟨e', alternatives, ⟨⟩, hsome⟩)
        · simp at h
        · obtain rfl : e' = e := honly
          exact ⟨⟨rfl, nofun⟩, ⟨List.isEmpty_eq_false_iff.mpr hsome, nofun⟩, rfl⟩
      · rintro ⟨-, honly, hback⟩
        obtain ⟨alternatives, rfl⟩ := opposite_eq_negation_iff.mp hback
        exact .inr ⟨e, alternatives, rfl, List.isEmpty_eq_false_iff.mp honly.not_isEmpty⟩
    · exact iff_of_true (.inl (by simp)) ⟨⟨rfl, nofun⟩, ⟨rfl, nofun⟩, rfl⟩

end Scope

namespace Dialect

open Scope

variable {d : Dialect} {s t : Scope}

section

variable (hclosed : d.SupportsComplements) (hs : s.WellFormed d)
include hclosed hs

/-- Taken from no scope, the complement that is left is the opposite, if that is a condition. -/
theorem unscoped_not_eq_ok_iff (hne : s.isEmpty = false) (ht : t.isEmpty = false) :
    d.not (.unscoped d) s = .ok t ↔ s.opposite.IsCondition ∧ s.opposite = t := by
  rw [unscoped_not_of_not_isEmpty hclosed hs hne, Except.ok.injEq]
  constructor
  · rintro rfl
    have h := isCondition_of_condition ht
    exact ⟨h, h.condition_eq.symm⟩
  · rintro ⟨h, rfl⟩
    exact h.condition_eq

/-- A complement that carries no condition has no complement that carries one, so neither of the two
may be lost. -/
theorem unscoped_not_not_eq_ok_iff (hne : s.isEmpty = false) :
    d.not (.unscoped d) s >>= d.not (.unscoped d) = .ok s ↔
      s.IsCondition ∧ s.opposite.IsCondition ∧ s.opposite.opposite = s := by
  have hopposite := wellFormed_opposite hclosed hs hne
  rw [bind_eq_ok]
  constructor
  · rintro ⟨t, hfirst, hsecond⟩
    cases hempty : t.isEmpty with
    | true =>
      have ht := (wellFormed_of_not hfirst (wellFormed_unscoped d) hs).here.dialect_eq
      rw [unscoped_not_of_isEmpty ht hempty] at hsecond
      cases hsecond
      cases hne
    | false =>
      obtain ⟨hthere, rfl⟩ := (unscoped_not_eq_ok_iff hclosed hs hne hempty).mp hfirst
      obtain ⟨hcondition, hback⟩ :=
        (unscoped_not_eq_ok_iff hclosed hopposite hempty hne).mp hsecond
      exact ⟨hback ▸ hcondition, hthere, hback⟩
  · rintro ⟨hcondition, hthere, hback⟩
    have hfirst := unscoped_not_eq_ok_iff hclosed hs hne hthere.not_isEmpty
    have hsecond := unscoped_not_eq_ok_iff hclosed hopposite hthere.not_isEmpty hne
    exact ⟨s.opposite, hfirst.mpr ⟨hthere, rfl⟩, hsecond.mpr ⟨hback.symm ▸ hcondition, hback⟩⟩

end

theorem unscoped_not_not_of_isEmpty (hs : s.dialect = d) (hempty : s.isEmpty = true) :
    d.not (.unscoped d) s >>= d.not (.unscoped d) = .ok (.unscoped d) := by
  rw [unscoped_not_of_isEmpty hs hempty]
  exact unscoped_not_of_isEmpty rfl rfl

theorem comesBack_of_isEmpty (hs : s.dialect = d) (hempty : s.isEmpty = true) :
    s.ComesBack ↔ Scope.unscoped d = s := by
  subst hs
  cases s <;> simp_all [ComesBack, isEmpty, dialect]

/-- In a dialect that supports the complements of its operators, the complement of the complement of
a scope is the scope itself, with every child, criterion and reading in its place, just for the
scopes that come back. -/
theorem not_not_eq_self_iff_comesBack (hclosed : d.SupportsComplements) (hs : s.MadeBy d) :
    ((Scope.unscoped d).not s >>= (Scope.unscoped d).not) = .ok s ↔ s.ComesBack := by
  have hwell := hs.wellFormed
  change d.not (.unscoped d) s >>= d.not (.unscoped d) = .ok s ↔ _
  cases hempty : s.isEmpty with
  | true =>
    have hd := hwell.here.dialect_eq
    rw [unscoped_not_not_of_isEmpty hd hempty, comesBack_of_isEmpty hd hempty, Except.ok.injEq]
  | false =>
    rw [unscoped_not_not_eq_ok_iff hclosed hwell hempty, comesBack_iff hwell hempty]

/-- A conjunction of inverted criteria and of every record comes back as the same tree. One of the
inverted criteria alone does not. -/
theorem not_not_eq_self_conjunction :
    let sql : Dialect := ⟨"sql", [.greaterThan, .lessThanOrEqualTo]⟩
    let x : Criterion := ⟨"x", .greaterThan, .string "map"⟩
    let inverted : Scope := .criteria sql [x, x.invert] true
    let s : Scope := .conjunction sql [inverted, .all sql]
    let single : Scope := .conjunction sql [inverted]
    (sql.SupportsComplements ∧ s.MadeBy sql ∧ single.MadeBy sql) ∧
      ((Scope.unscoped sql).not s >>= (Scope.unscoped sql).not) = .ok s ∧
      ((Scope.unscoped sql).not inverted >>= (Scope.unscoped sql).not) = .ok inverted ∧
      ((Scope.unscoped sql).not single >>= (Scope.unscoped sql).not) ≠ .ok single := by
  intro sql x inverted s single
  have hclosed : sql.SupportsComplements := by
    intro op hop
    cases op <;> revert hop <;> decide
  have hx : x.WellFormed := ⟨by decide, nofun, nofun⟩
  have hinverted : inverted.WellFormed sql := wellFormed_of_criteriaScope rfl
    (List.forall_mem_cons.mpr ⟨hx, List.forall_mem_singleton.mpr hx.invert⟩)
  have hall : (Scope.all sql).WellFormed sql := .leaf (keeps_wellFormed sql).all rfl
  have hs : s.WellFormed sql :=
    .node ((keeps_wellFormed sql).conjunction (List.cons_ne_nil _ _))
      (List.forall_mem_cons.mpr ⟨hinverted, List.forall_mem_singleton.mpr hall⟩)
  have hsingle : single.WellFormed sql :=
    .node ((keeps_wellFormed sql).conjunction (List.cons_ne_nil _ _))
      (List.forall_mem_singleton.mpr hinverted)
  refine ⟨⟨hclosed, hs.madeBy, hsingle.madeBy⟩, ?_, ?_, ?_⟩
  · exact (not_not_eq_self_iff_comesBack hclosed hs.madeBy).mpr Nat.le.refl
  · exact (not_not_eq_self_iff_comesBack hclosed hinverted.madeBy).mpr (List.cons_ne_nil _ _)
  · rw [ne_eq, not_not_eq_self_iff_comesBack hclosed hsingle.madeBy]
    simp [single, ComesBack]

end Dialect
end QueryScope
