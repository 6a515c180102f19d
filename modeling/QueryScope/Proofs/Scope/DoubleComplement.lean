import QueryScope.Proofs.Scope.Degenerate

/-!
# Complements of complements

The complement of a scope is taken as what is left of no condition: the scope without a condition is
joined with it. There a complement that is every record, or carries no condition itself, disappears,
and a further complement then finds nothing to take. So five shapes of scopes, all of which reject
every record, come back as the scope without a condition. Every other scope comes back with its
meaning.
-/
namespace QueryScope

namespace Scope

/-- The complement of a scope of one dialect, as a tree. -/
def opposite : Scope → Scope
  | .all d => .nothing d
  | .nothing d => .all d
  | .unscoped d => .unscoped d
  | .criteria d cs inverted => .criteria d cs.invert (!inverted)
  | .negation _ [only] => only
  | .negation d children => .conjunction d children
  | .conjunction d children => .negation d children
  | .disjunction d children => .negation d [.disjunction d children]

/-- What a scope leaves when it is joined to no condition. -/
def condition (s : Scope) : Scope :=
  if s.isEmpty then .unscoped s.dialect
  else
    match s with
    | .all d => .unscoped d
    | _ => s

/-- Whether the complement of a scope takes no record from what it is joined to. -/
def takesNothing (s : Scope) : Bool := s.isEmpty || s.negatesVoid

/-- Whether the complement of the complement of a scope has lost it. Lost are no record, a void scope
alone in a conjunction, and the negation of a single scope that is every record, negates a void
scope, or carries no condition and is not void. -/
def lostTwice : Scope → Bool
  | .nothing _ => true
  | .conjunction _ [only] => only.isVoid
  | .negation _ [.all _] => true
  | .negation _ [only] => only.negatesVoid || only.isEmpty && !only.isVoid
  | _ => false

theorem opposite_eq_conjunction {d : Dialect} {children : List Scope}
    (h : ∀ only, children ≠ [only]) :
    (negation d children).opposite = .conjunction d children := by
  unfold opposite
  split <;> simp_all

theorem condition_of_isEmpty {s : Scope} (h : s.isEmpty = true) :
    s.condition = .unscoped s.dialect := if_pos h

theorem condition_of_not_isEmpty {s : Scope} (hne : s.isEmpty = false)
    (hall : s ≠ .all s.dialect) : s.condition = s := by
  unfold condition
  rw [if_neg (Bool.eq_false_iff.mp hne)]
  cases s with
  | all d => exact absurd rfl hall
  | _ => rfl

theorem takesNothing_condition {s : Scope} (hall : s ≠ .all s.dialect) :
    s.condition.takesNothing = s.takesNothing := by
  cases hempty : s.isEmpty with
  | true =>
    rw [condition_of_isEmpty hempty, takesNothing, takesNothing, hempty]
    rfl
  | false => rw [condition_of_not_isEmpty hempty hall]

theorem lostTwice_negation {d : Dialect} {only : Scope} (hall : only ≠ .all only.dialect) :
    (Scope.negation d [only]).lostTwice = (only.negatesVoid || only.isEmpty && !only.isVoid) := by
  cases only with
  | all e => exact absurd rfl hall
  | _ => rfl

theorem lostTwice_of_ne_singleton {d : Dialect} {children : List Scope}
    (h : ∀ only, children ≠ [only]) : (Scope.negation d children).lostTwice = false := by
  unfold lostTwice
  split <;> simp_all

/-- The first complement leaves something that takes nothing just where the second one loses the
scope, or where the scope accepts every record as the negation of a void one. -/
theorem takesNothing_opposite {s : Scope} (hne : s.isEmpty = false)
    (hchild : ∀ d, s ≠ .negation d []) :
    s.opposite.condition.takesNothing = (s.lostTwice || s.negatesVoid) := by
  fun_cases opposite s with
  | case1 | case2 => rfl
  | case3 => cases hne
  | case4 d cs inverted =>
    refine (takesNothing_condition (by simp)).trans ?_
    rw [takesNothing, isEmpty, Criteria.invert, List.isEmpty_map]
    exact congrArg (· || false) hne
  | case5 d only =>
    -- the child itself is left, unless it is every record and so no condition
    by_cases hall : only = .all only.dialect
    · rw [hall]
      rfl
    rw [takesNothing_condition hall, lostTwice_negation hall, negatesVoid, takesNothing]
    cases hvoid : only.isVoid with
    | true => simp [isEmpty_of_isVoid hvoid]
    | false => simp [Bool.or_comm]
  | case6 d children hmany =>
    have hchildren : children.isEmpty = false :=
      List.isEmpty_eq_false_iff.mpr fun hnil => hchild d (hnil ▸ rfl)
    refine (takesNothing_condition (by simp)).trans ?_
    rw [negatesVoid_of_ne_singleton hmany, lostTwice_of_ne_singleton hmany, takesNothing, isEmpty,
      hchildren]
    rfl
  | case7 d children =>
    refine (takesNothing_condition (by simp)).trans ?_
    rcases children with _ | ⟨only, _ | ⟨next, rest⟩⟩
    · rfl
    · exact (Bool.or_false _).symm
    · rfl
  | case8 d children => exact hne

variable {ρ : Type u} [Record ρ]

theorem accepts_condition (s : Scope) (r : ρ) : s.condition.accepts r = s.permits r := by
  cases hempty : s.isEmpty with
  | true => rw [condition_of_isEmpty hempty, permits_of_isEmpty r hempty, accepts_unscoped]
  | false =>
    unfold condition
    rw [permits_of_not_isEmpty r hempty, if_neg (Bool.eq_false_iff.mp hempty)]
    cases s <;> rfl

/-- Whatever is lost has rejected every record. -/
theorem accepts_of_lostTwice {s : Scope} (h : s.lostTwice = true) (r : ρ) :
    s.accepts r = false := by
  revert h
  fun_cases lostTwice s with
  | case1 | case3 => exact fun _ => rfl
  | case2 d only =>
    intro h
    rw [accepts_conjunction, List.all_cons, accepts_of_isVoid h, Bool.false_and]
  | case4 d only =>
    intro h
    have honly : only.accepts r = true := by
      rcases Bool.or_eq_true_iff.mp h with hnegates | hkept
      · exact accepts_of_negatesVoid hnegates r
      · obtain ⟨hempty, hvoid⟩ := Bool.and_eq_true_iff.mp hkept
        have hpermits := permits_of_isEmpty r hempty
        rw [Bool.not_eq_true'] at hvoid
        rwa [permits_eq, hvoid, Bool.false_or] at hpermits
    rw [accepts_negation, List.all_cons, honly]
    rfl
  | case5 => nofun

end Scope

namespace Dialect

open Scope

variable {d : Dialect} {s t : Scope}

/-- The complement of a scope is its opposite, if the dialect supports the operators that this takes
at the root. -/
theorem complement_eq_ifSupported (hs : s.WellFormed d) (hne : s.isEmpty = false) :
    d.complement s = d.ifSupported (s.ownCriteria.invert.map Criterion.operator) s.opposite := by
  obtain rfl := hs.here.dialect_eq
  have hchildren : s.dialect.translateAll s.children = .ok s.children :=
    translateAll_of_dialect_eq fun t ht => (hs.of_mem_children t ht).here.dialect_eq
  fun_cases s.dialect.complement s with
  | case1 s hempty =>
    rw [hempty] at hne
    cases hne
  | case2 | case3 | case4 | case6 => rfl
  | case5 e cs inverted => exact criteriaScope_eq_ifSupported cs.invert (!inverted)
  | case7 e children hmany =>
    rw [opposite_eq_conjunction hmany]
    exact conjunctionScope_eq_ok.mpr ⟨_, hchildren, rfl⟩
  | case8 e children =>
    exact negationScope_eq_ok.mpr ⟨List.isEmpty_eq_false_iff.mp hne, _, hchildren, rfl⟩
  | case9 e children =>
    refine negationScope_eq_ok.mpr ⟨List.cons_ne_nil _ _, _, ?_, rfl⟩
    exact translateAll_of_dialect_eq (List.forall_mem_singleton.mpr rfl)

/-- In a dialect with all complements, the complement is the opposite node. -/
theorem complement_eq_opposite (hclosed : d.SupportsComplements) (hs : s.WellFormed d)
    (hne : s.isEmpty = false) : d.complement s = .ok s.opposite := by
  rw [complement_eq_ifSupported hs hne, ifSupported_of_forall]
  rw [List.forall_mem_map, Criteria.invert, List.forall_mem_map]
  exact hclosed.ownCriteria hs.here

theorem wellFormed_condition (hs : s.WellFormed d) : s.condition.WellFormed d := by
  obtain rfl := hs.here.dialect_eq
  cases hempty : s.isEmpty with
  | true =>
    rw [condition_of_isEmpty hempty]
    exact wellFormed_unscoped s.dialect
  | false =>
    by_cases hall : s = .all s.dialect
    · rw [hall]
      exact wellFormed_unscoped s.dialect
    · rwa [condition_of_not_isEmpty hempty hall]

/-- Added to no scope, a scope is reduced to its condition. -/
theorem unscoped_and_eq_condition (hs : s.dialect = d) :
    d.and (.unscoped d) s = .ok s.condition := by
  subst hs
  rw [and_eq_meet (translate_unscoped _ _) (translate_of_dialect_eq rfl)]
  unfold meet condition
  split
  · rfl
  · cases s <;> rfl

theorem unscoped_not_of_isEmpty (hs : s.dialect = d) (hempty : s.isEmpty = true) :
    d.not (.unscoped d) s = .ok (.unscoped d) := by
  rw [not, translate_unscoped, translate_of_dialect_eq hs]
  change (if s.isEmpty then _ else _) = _
  rw [hempty]
  rfl

section

variable (hclosed : d.SupportsComplements) (hs : s.WellFormed d)
include hclosed hs

theorem wellFormed_opposite (hne : s.isEmpty = false) : s.opposite.WellFormed d :=
  wellFormed_of_complement (complement_eq_opposite hclosed hs hne) hs hne

theorem unscoped_not_of_not_isEmpty (hne : s.isEmpty = false) :
    d.not (.unscoped d) s = .ok s.opposite.condition := by
  have hopposite := wellFormed_opposite hclosed hs hne
  rw [not_eq_and_complement (translate_unscoped d d)
    (translate_of_dialect_eq hs.here.dialect_eq) hne, complement_eq_opposite hclosed hs hne]
  exact unscoped_and_eq_condition hopposite.here.dialect_eq

theorem unscoped_not_of_takesNothing (h : s.takesNothing = true) :
    d.not (.unscoped d) s = .ok (.unscoped d) := by
  cases hempty : s.isEmpty with
  | true => exact unscoped_not_of_isEmpty hs.here.dialect_eq hempty
  | false =>
    rw [unscoped_not_of_not_isEmpty hclosed hs hempty]
    rw [takesNothing, hempty, Bool.false_or] at h
    unfold negatesVoid at h
    split at h
    · rename_i e only
      obtain rfl := (hs.of_mem_children only List.mem_cons_self).here.dialect_eq
      exact congrArg Except.ok (condition_of_isEmpty (isEmpty_of_isVoid h))
    · cases h

/-- The complement of a scope, joined to no condition, accepts what the scope rejects, and
everything if it takes nothing. -/
theorem exists_unscoped_not :
    ∃ t, d.not (.unscoped d) s = .ok t ∧ ∀ {ρ : Type u} [Record ρ] (r : ρ),
      t.accepts r = (s.takesNothing || !s.accepts r) := by
  cases hempty : s.isEmpty with
  | true =>
    refine ⟨_, unscoped_not_of_isEmpty hs.here.dialect_eq hempty, fun r => ?_⟩
    rw [accepts_unscoped, takesNothing, hempty]
    rfl
  | false =>
    refine ⟨_, unscoped_not_of_not_isEmpty hclosed hs hempty, fun r => ?_⟩
    rw [accepts_condition, permits_complement (complement_eq_opposite hclosed hs hempty) hempty,
      takesNothing, hempty, Bool.false_or]

/-- Two complements give back what the scope accepts unless they lose it. What is left then is the
scope without a condition. -/
theorem exists_unscoped_not_not (hne : s.isEmpty = false) :
    ∃ t u, d.not (.unscoped d) s = .ok t ∧ d.not (.unscoped d) t = .ok u ∧
      (s.lostTwice = true → u = .unscoped d) ∧
      ∀ {ρ : Type u} [Record ρ] (r : ρ), u.accepts r = (s.lostTwice || s.accepts r) := by
  have ht := wellFormed_condition (wellFormed_opposite hclosed hs hne)
  have htakes := takesNothing_opposite hne hs.here.child
  obtain ⟨u, hu, haccepts⟩ := exists_unscoped_not.{u} hclosed ht
  refine ⟨_, u, unscoped_not_of_not_isEmpty hclosed hs hne, hu, fun hlost => ?_, fun r => ?_⟩
  · rw [hlost, Bool.true_or] at htakes
    rw [unscoped_not_of_takesNothing hclosed ht htakes] at hu
    exact (Except.ok.inj hu).symm
  have hfirst : s.opposite.condition.accepts r = (s.negatesVoid || !s.accepts r) := by
    rw [accepts_condition, permits_complement (complement_eq_opposite hclosed hs hne) hne]
  rw [haccepts, htakes, hfirst]
  cases hvoid : s.negatesVoid with
  | true => simp [accepts_of_negatesVoid hvoid]
  | false => simp

end

/-- The complement of the complement of a scope that carries a condition exists and accepts what the
scope accepts. This fails just for the lost scopes: they reject every record, and what is left of
them rejects none. -/
theorem not_not_restores_unless_lostTwice (hs : s.MadeBy basic) (hne : s.isEmpty = false) :
    ∃ t u, (Scope.unscoped basic).not s = .ok t ∧ (Scope.unscoped basic).not t = .ok u ∧
      (s.lostTwice = true → u = .unscoped basic) ∧
      ∀ {ρ : Type u} [Record ρ] (r : ρ),
        u.accepts r = (s.lostTwice || s.accepts r) ∧
          (u.accepts r = s.accepts r ↔ s.lostTwice = false) := by
  obtain ⟨t, u, ht, hu, hlost, haccepts⟩ :=
    exists_unscoped_not_not basic_supportsComplements hs.wellFormed hne
  refine ⟨t, u, ht, hu, hlost, fun r => ⟨haccepts r, ?_⟩⟩
  rw [haccepts r]
  cases h : s.lostTwice with
  | true => simp [accepts_of_lostTwice h]
  | false => simp

/-- A negation of two scopes, one of which is no record. -/
theorem not_not_restores_negation :
    let c : Criterion := ⟨"x", .null, .null⟩
    let s : Scope := .negation basic [.criteria basic [c] true, .nothing basic]
    (s.MadeBy basic ∧ s.isEmpty = false ∧ s.lostTwice = false) ∧
      ∃ t u, (Scope.unscoped basic).not s = .ok t ∧ (Scope.unscoped basic).not t = .ok u ∧
        ∀ r : LiteralMap, u.accepts r = s.accepts r := by
  intro c s
  have hc : c.WellFormed := ⟨by decide, nofun, fun _ => rfl⟩
  have hcriteria : (Scope.criteria basic [c] true).WellFormed basic :=
    wellFormed_of_criteriaScope rfl (List.forall_mem_singleton.mpr hc)
  have hnothing : (Scope.nothing basic).WellFormed basic :=
    .leaf (keeps_wellFormed basic).nothing rfl
  have hwell : s.WellFormed basic :=
    .node ((keeps_wellFormed basic).negation (List.cons_ne_nil _ _))
      (List.forall_mem_cons.mpr ⟨hcriteria, List.forall_mem_singleton.mpr hnothing⟩)
  obtain ⟨t, u, ht, hu, -, haccepts⟩ := not_not_restores_unless_lostTwice hwell.madeBy rfl
  exact ⟨⟨hwell.madeBy, rfl, rfl⟩, t, u, ht, hu, fun r => (haccepts r).2.mpr rfl⟩

/-- No record, and a conjunction of nothing but an empty disjunction, come back as the scope without
a condition. -/
theorem not_not_accepts_rejected_record :
    let void : Scope := .disjunction basic []
    let s : Scope := .conjunction basic [void]
    let r : LiteralMap := ⟨[("x", .bool true)]⟩
    (basic.disjunctionScope [] = .ok void ∧ basic.conjunctionScope [void] = .ok s) ∧
      ((Scope.nothing basic).isEmpty = false ∧ s.isEmpty = false) ∧
      ((Scope.unscoped basic).not (.nothing basic) >>= (Scope.unscoped basic).not) =
        .ok (.unscoped basic) ∧
      ((Scope.unscoped basic).not s >>= (Scope.unscoped basic).not) = .ok (.unscoped basic) ∧
      (Scope.unscoped basic).accepts r ≠ (Scope.nothing basic).accepts r ∧
      (Scope.unscoped basic).accepts r ≠ s.accepts r :=
  ⟨⟨rfl, rfl⟩, ⟨rfl, rfl⟩, rfl, rfl, by decide, by decide⟩

end Dialect
end QueryScope
