import QueryScope.Proofs.Scope.Translation
import QueryScope.Scope.Compose

/-!
# Conjunctions

Joining two scopes by and may merge criteria, take in the children of a conjunction or drop one
side. Every arm says of a record what both sides say, and a result without a condition comes from a
first side without one.
-/
namespace QueryScope.Dialect

variable {d : Dialect} {s o t : Scope} {ρ : Type u} [Record ρ]

/-- Criteria added to a conjunction add their condition, wherever they end up. -/
theorem all_accepts_appendCriteria {children ts : List Scope} {cs : Criteria} {added : Scope}
    (h : d.appendCriteria children cs added = .ok ts) {r : ρ}
    (hadded : added.accepts r = cs.allAccept r) :
    ts.all (Scope.accepts r) = (children.all (Scope.accepts r) && cs.allAccept r) := by
  revert h
  fun_cases d.appendCriteria children cs added with
  | case1 e last hlast =>
    intro h
    obtain ⟨merged, hmerged, hts⟩ := bind_eq_ok.mp h
    cases hts
    have hchildren : children = children.dropLast ++ [.criteria e last false] :=
      (List.dropLast_append_getLast? _ hlast).symm
    rw [List.all_append, List.all_cons, List.all_nil, accepts_criteriaScope hmerged]
    conv_rhs => rw [hchildren]
    simp [Criteria.allAccept_append, Bool.and_assoc]
  | case2 =>
    intro h
    cases h
    rw [List.all_append, List.all_cons, List.all_nil, hadded, Bool.and_true]

theorem appendCriteria_ne_nil {children ts : List Scope} {cs : Criteria} {added : Scope}
    (h : d.appendCriteria children cs added = .ok ts) : ts ≠ [] := by
  revert h
  fun_cases d.appendCriteria children cs added with
  | case1 =>
    intro h
    obtain ⟨merged, -, hts⟩ := bind_eq_ok.mp h
    cases hts
    exact List.append_ne_nil_of_right_ne_nil _ (List.cons_ne_nil _ _)
  | case2 =>
    intro h
    cases h
    exact List.append_ne_nil_of_right_ne_nil _ (List.cons_ne_nil _ _)

/-- Joined scopes accept the records that both accept. -/
theorem accepts_joinAnd (h : d.joinAnd s o = .ok t) (r : ρ) :
    t.accepts r = (s.accepts r && o.accepts r) := by
  revert h
  fun_cases d.joinAnd s o with
  | case1 e left e' right =>
    intro h
    rw [accepts_criteriaScope h]
    exact Criteria.allAccept_append left right r
  | case2 e left e' right =>
    intro h
    rw [accepts_conjunctionScope h, List.all_append, Scope.accepts_conjunction,
      Scope.accepts_conjunction]
  | case3 e children e' cs =>
    intro h
    obtain ⟨ts, hts, h⟩ := bind_eq_ok.mp h
    rw [accepts_conjunctionScope h, Scope.accepts_conjunction]
    exact all_accepts_appendCriteria hts rfl
  | case4 e children =>
    intro h
    rw [accepts_conjunctionScope h, List.all_append, Scope.accepts_conjunction]
    simp
  | case5 e children =>
    intro h
    rw [accepts_conjunctionScope h, List.all_cons, Scope.accepts_conjunction]
  | case6 =>
    intro h
    rw [accepts_conjunctionScope h]
    simp

theorem isEmpty_joinAnd (h : d.joinAnd s o = .ok t) (ho : o.isEmpty = false) :
    t.isEmpty = false := by
  revert h
  fun_cases d.joinAnd s o with
  | case1 e left e' right =>
    intro h
    rw [isEmpty_criteriaScope h, List.isEmpty_eq_false_iff]
    exact List.append_ne_nil_of_right_ne_nil _ (List.isEmpty_eq_false_iff.mp ho)
  | case2 e left e' right =>
    intro h
    rw [isEmpty_conjunctionScope h, List.isEmpty_eq_false_iff]
    exact List.append_ne_nil_of_right_ne_nil _ (List.isEmpty_eq_false_iff.mp ho)
  | case3 e children e' cs =>
    intro h
    obtain ⟨ts, hts, h⟩ := bind_eq_ok.mp h
    rw [isEmpty_conjunctionScope h, List.isEmpty_eq_false_iff]
    exact appendCriteria_ne_nil hts
  | case4 e children =>
    intro h
    rw [isEmpty_conjunctionScope h, List.isEmpty_eq_false_iff]
    exact List.append_ne_nil_of_right_ne_nil _ (List.cons_ne_nil _ _)
  | case5 | case6 =>
    intro h
    rw [isEmpty_conjunctionScope h, List.isEmpty_cons]

/-- The meet lets through what both let through, empty or not. -/
theorem permits_meet (h : d.meet s o = .ok t) (r : ρ) :
    t.permits r = (s.permits r && o.permits r) := by
  revert h
  fun_cases d.meet s o with
  | case1 s o ho =>
    intro h
    cases h
    rw [Scope.permits_of_isEmpty r ho, Bool.and_true]
  | case2 | case3 =>
    intro h
    cases h
    simp only [Scope.permits_nothing, Bool.false_and, Bool.and_false]
  | case4 | case5 =>
    intro h
    cases h
    simp only [Scope.permits_all, Bool.true_and, Bool.and_true]
  | case6 s o _ hs =>
    intro h
    rw [if_pos hs] at h
    cases h
    rw [Scope.permits_of_isEmpty r hs, Bool.true_and]
  | case7 s o ho hs =>
    intro h
    rw [if_neg hs] at h
    rw [Bool.not_eq_true] at hs ho
    rw [Scope.permits_of_not_isEmpty r (isEmpty_joinAnd h ho), Scope.permits_of_not_isEmpty r hs,
      Scope.permits_of_not_isEmpty r ho, accepts_joinAnd h]

/-- Nothing that a conjunction is given after its first side takes a condition away. -/
theorem isEmpty_of_isEmpty_meet (h : d.meet s o = .ok t) (ht : t.isEmpty = true) :
    s.isEmpty = true := by
  revert h
  fun_cases d.meet s o with
  | case1 | case5 =>
    intro h
    cases h
    exact ht
  | case2 | case3 =>
    intro h
    cases h
    cases ht
  | case4 o ho =>
    intro h
    cases h
    exact absurd ht ho
  | case6 s o _ hs =>
    intro _
    exact hs
  | case7 s o ho hs =>
    intro h
    rw [if_neg hs] at h
    rw [Bool.not_eq_true] at ho
    rw [isEmpty_joinAnd h ho] at ht
    cases ht

theorem and_eq_ok {a b : Scope} :
    d.and a b = .ok t ↔
      ∃ s, d.translate a = .ok s ∧ ∃ o, d.translate b = .ok o ∧ d.meet s o = .ok t := by
  rw [and, bind_eq_ok]
  exact exists_congr fun s => and_congr_right fun _ => bind_eq_ok

/-- A conjunction lets through what both scopes let through, whatever their dialects. -/
theorem permits_of_and {a b : Scope} (h : d.and a b = .ok t) (r : ρ) :
    t.permits r = (a.permits r && b.permits r) := by
  obtain ⟨s, hs, o, ho, ht⟩ := and_eq_ok.mp h
  rw [permits_meet ht, permits_of_translate hs, permits_of_translate ho]

theorem isEmpty_of_isEmpty_and {a b : Scope} (h : d.and a b = .ok t) (ht : t.isEmpty = true) :
    a.isEmpty = true := by
  obtain ⟨s, hs, o, -, hmeet⟩ := and_eq_ok.mp h
  rw [← isEmpty_of_translate hs]
  exact isEmpty_of_isEmpty_meet hmeet ht

theorem isEmpty_of_and {a b : Scope} (h : d.and a b = .ok t) (ha : a.isEmpty = false) :
    t.isEmpty = false := by
  rw [Bool.eq_false_iff]
  intro ht
  rw [isEmpty_of_isEmpty_and h ht] at ha
  cases ha

/-- For scopes that are not empty, a conjunction accepts what both accept. -/
theorem accepts_of_and {a b : Scope} (h : d.and a b = .ok t) (ha : a.isEmpty = false)
    (hb : b.isEmpty = false) (r : ρ) : t.accepts r = (a.accepts r && b.accepts r) := by
  have hpermits := permits_of_and h r
  rwa [Scope.permits_of_not_isEmpty r (isEmpty_of_and h ha), Scope.permits_of_not_isEmpty r ha,
    Scope.permits_of_not_isEmpty r hb] at hpermits

/-- A conjunction lets a record through if both sides do, and it carries a condition if its first
side does. Where both sides carry one, it accepts what both accept. -/
theorem meaning_of_and {a b : Scope} (h : d.and a b = .ok s) (r : ρ) :
    s.permits r = (a.permits r && b.permits r) ∧
      (s.isEmpty = true → a.isEmpty = true) ∧
      (a.isEmpty = false → b.isEmpty = false →
        s.accepts r = (a.accepts r && b.accepts r)) :=
  ⟨permits_of_and h r, isEmpty_of_isEmpty_and h, fun ha hb => accepts_of_and h ha hb r⟩

/-- Criteria from another dialect join the last child of a conjunction. -/
theorem meaning_of_and_appended :
    let a : Scope := .conjunction basic [.criteria basic [⟨"x", .null, .null⟩] false]
    let b : Scope := .criteria ⟨"sql", [.notNull]⟩ [⟨"y", .notNull, .null⟩] false
    let s : Scope := .conjunction basic
      [.criteria basic [⟨"x", .null, .null⟩, ⟨"y", .notNull, .null⟩] false]
    let r : LiteralMap := ⟨[("y", .string "here")]⟩
    basic.and a b = .ok s ∧ s.permits r = (a.permits r && b.permits r) ∧
      (s.isEmpty = true → a.isEmpty = true) ∧
      (a.isEmpty = false → b.isEmpty = false →
        s.accepts r = (a.accepts r && b.accepts r)) := by
  intro a b s r
  have h : basic.and a b = .ok s := rfl
  exact ⟨h, meaning_of_and h r⟩

end QueryScope.Dialect
