import QueryScope.Proofs.Scope.Translation
import QueryScope.Scope.Compose

/-!
# Disjunctions

Joining two scopes by or takes in the children of disjunctions or drops one side. Between scopes
that carry a condition every arm accepts what one of the sides accepts.
-/
namespace QueryScope.Dialect

variable {d : Dialect} {s o t : Scope} {ρ : Type u} [Record ρ]

theorem accepts_joinOr (h : d.joinOr s o = .ok t) (r : ρ) :
    t.accepts r = (s.accepts r || o.accepts r) := by
  revert h
  fun_cases d.joinOr s o with
  | case1 e left e' right =>
    intro h
    rw [accepts_disjunctionScope h, List.any_append, Scope.accepts_disjunction,
      Scope.accepts_disjunction]
  | case2 o e children =>
    intro h
    rw [accepts_disjunctionScope h, List.any_append, List.any_cons, List.any_nil, Bool.or_false,
      Scope.accepts_disjunction]
  | case3 s e children =>
    intro h
    rw [accepts_disjunctionScope h, List.any_cons, Scope.accepts_disjunction]
  | case4 s o =>
    intro h
    rw [accepts_disjunctionScope h, List.any_cons, List.any_cons, List.any_nil, Bool.or_false]

theorem accepts_union (h : d.union s o = .ok t) (hs : s.isEmpty = false) (ho : o.isEmpty = false)
    (r : ρ) : t.accepts r = (s.accepts r || o.accepts r) := by
  revert h
  fun_cases d.union s o with
  | case1 s o hempty =>
    rw [hempty] at ho
    cases ho
  | case2 | case3 =>
    intro h
    cases h
    simp only [Scope.accepts_all, Bool.true_or, Bool.or_true]
  | case4 | case5 =>
    intro h
    cases h
    simp only [Scope.accepts_nothing, Bool.false_or, Bool.or_false]
  | case6 s o _ hempty =>
    rw [hempty] at hs
    cases hs
  | case7 s o _ hempty =>
    intro h
    rw [if_neg hempty] at h
    exact accepts_joinOr h r

theorem isEmpty_joinOr (h : d.joinOr s o = .ok t) (ho : o.isEmpty = false) :
    t.isEmpty = false := by
  revert h
  fun_cases d.joinOr s o with
  | case1 e left e' right =>
    intro h
    rw [isEmpty_disjunctionScope h, List.isEmpty_eq_false_iff]
    exact List.append_ne_nil_of_right_ne_nil _ (List.isEmpty_eq_false_iff.mp ho)
  | case2 o e children =>
    intro h
    rw [isEmpty_disjunctionScope h, List.isEmpty_eq_false_iff]
    exact List.append_ne_nil_of_right_ne_nil _ (List.cons_ne_nil _ _)
  | case3 | case4 =>
    intro h
    rw [isEmpty_disjunctionScope h, List.isEmpty_cons]

theorem isEmpty_union (h : d.union s o = .ok t) (hs : s.isEmpty = false) (ho : o.isEmpty = false) :
    t.isEmpty = false := by
  revert h
  fun_cases d.union s o with
  | case1 s o hempty =>
    rw [hempty] at ho
    cases ho
  | case2 | case3 =>
    intro h
    cases h
    rfl
  | case4 =>
    intro h
    cases h
    exact ho
  | case5 =>
    intro h
    cases h
    exact hs
  | case6 s o _ hempty =>
    rw [hempty] at hs
    cases hs
  | case7 s o _ hempty =>
    intro h
    rw [if_neg hempty] at h
    exact isEmpty_joinOr h ho

theorem or_eq_ok {a b : Scope} :
    d.or a b = .ok t ↔
      ∃ s, d.translate a = .ok s ∧ ∃ o, d.translate b = .ok o ∧ d.union s o = .ok t := by
  rw [or, bind_eq_ok]
  exact exists_congr fun s => and_congr_right fun _ => bind_eq_ok

/-- For scopes that are not empty, a disjunction accepts what either accepts. -/
theorem accepts_of_or {a b : Scope} (h : d.or a b = .ok t) (ha : a.isEmpty = false)
    (hb : b.isEmpty = false) (r : ρ) : t.accepts r = (a.accepts r || b.accepts r) := by
  obtain ⟨s, hs, o, ho, hunion⟩ := or_eq_ok.mp h
  rw [accepts_union hunion (isEmpty_of_translate hs ▸ ha) (isEmpty_of_translate ho ▸ hb),
    accepts_of_translate hs, accepts_of_translate ho]

theorem isEmpty_of_or {a b : Scope} (h : d.or a b = .ok t) (ha : a.isEmpty = false)
    (hb : b.isEmpty = false) : t.isEmpty = false := by
  obtain ⟨s, hs, o, ho, hunion⟩ := or_eq_ok.mp h
  exact isEmpty_union hunion (isEmpty_of_translate hs ▸ ha) (isEmpty_of_translate ho ▸ hb)

end QueryScope.Dialect
