import QueryScope.Proofs.Scope.Conjunction

/-!
# Complements

The complement of a scope with a condition accepts what the scope rejects. A negation of a single
child is unwrapped to that child, and a child without a condition is then dropped by the
conjunction. Mostly it accepts every record and nothing is lost. A void child, one that accepts no
record, takes the condition away.
-/
namespace QueryScope.Scope

/-- Whether a scope carries no condition and yet accepts no record: a disjunction of nothing, or
inverted criteria without a criterion. -/
def isVoid : Scope → Bool
  | .criteria _ cs inverted => cs.isEmpty && inverted
  | .disjunction _ children => children.isEmpty
  | _ => false

/-- Whether a scope is the negation of a single void scope. -/
def negatesVoid : Scope → Bool
  | .negation _ [only] => only.isVoid
  | _ => false

theorem isEmpty_of_isVoid {s : Scope} (h : s.isVoid = true) : s.isEmpty = true := by
  cases s with
  | criteria d cs inverted => exact (Bool.and_eq_true_iff.mp h).1
  | disjunction d children => exact h
  | _ => cases h

theorem negatesVoid_of_ne_singleton {d : Dialect} {children : List Scope}
    (h : ∀ only, children ≠ [only]) : (negation d children).negatesVoid = false := by
  unfold negatesVoid
  split
  · rename_i e only hsame
    cases hsame
    exact absurd rfl (h only)
  · rfl

variable {ρ : Type u} [Record ρ]

theorem accepts_of_isVoid {s : Scope} (h : s.isVoid = true) (r : ρ) : s.accepts r = false := by
  cases s with
  | criteria d cs inverted =>
    obtain ⟨hcs, rfl⟩ := Bool.and_eq_true_iff.mp h
    rw [List.isEmpty_iff.mp hcs]
    rfl
  | disjunction d children =>
    rw [List.isEmpty_iff.mp h]
    rfl
  | _ => cases h

/-- Only a void scope lets through a record that it does not accept. -/
theorem permits_eq (s : Scope) (r : ρ) : s.permits r = (s.isVoid || s.accepts r) := by
  cases s with
  | criteria d cs inverted =>
    cases cs with
    | nil => cases inverted <;> rfl
    | cons c cs => rfl
  | conjunction d children => cases children <;> rfl
  | disjunction d children => cases children <;> rfl
  | _ => rfl

/-- The negation of a void scope accepts every record. -/
theorem accepts_of_negatesVoid {s : Scope} (h : s.negatesVoid = true) (r : ρ) :
    s.accepts r = true := by
  unfold negatesVoid at h
  split at h
  · rw [accepts_negation, List.all_cons, accepts_of_isVoid h, Bool.false_and, Bool.not_false]
  · cases h

end QueryScope.Scope

namespace QueryScope.Dialect

variable {d : Dialect} {a b s t : Scope} {ρ : Type u} [Record ρ]

theorem isVoid_of_translate (h : d.translate s = .ok t) : t.isVoid = s.isVoid := by
  apply rel_of_translate_eq_ok (R := fun s t => t.isVoid = s.isVoid) (h := h)
  case disjunction => exact fun _ _ _ hts => isEmpty_eq_of_forall₂ hts
  all_goals intros; rfl

theorem negatesVoid_of_translate (h : d.translate s = .ok t) :
    t.negatesVoid = s.negatesVoid := by
  by_cases hs : s.dialect = d
  · rw [translate_of_dialect_eq hs] at h
    rw [Except.ok.inj h]
  rw [translate_of_dialect_ne hs] at h
  cases s with
  | negation e children =>
    obtain ⟨-, ts, hts, rfl⟩ := negationScope_eq_ok.mp h
    cases translateAll_eq_ok.mp hts with
    | nil => rfl
    | cons hfirst hrest =>
      cases hrest with
      | nil => exact isVoid_of_translate hfirst
      | cons => rfl
  | criteria e cs inverted =>
    obtain ⟨-, rfl⟩ := criteriaScope_eq_ok.mp h
    rfl
  | conjunction e children =>
    obtain ⟨ts, -, rfl⟩ := conjunctionScope_eq_ok.mp h
    rfl
  | disjunction e children =>
    obtain ⟨ts, -, rfl⟩ := disjunctionScope_eq_ok.mp h
    rfl
  | _ =>
    cases h
    rfl

/-- The complement lets through the other records, or all of them for a negated void scope. -/
theorem permits_complement (h : d.complement s = .ok t) (hs : s.isEmpty = false) (r : ρ) :
    t.permits r = (s.negatesVoid || !s.accepts r) := by
  revert h
  fun_cases d.complement s with
  | case1 s hempty =>
    rw [hempty] at hs
    cases hs
  | case2 | case3 =>
    intro h
    cases h
    rfl
  | case4 => cases hs
  | case5 e cs inverted =>
    intro h
    have ht : t.isEmpty = false := by
      rw [isEmpty_criteriaScope h, Criteria.invert, List.isEmpty_map]
      exact hs
    rw [Scope.permits_of_not_isEmpty r ht, accepts_criteriaScope h, Scope.accepts_criteria]
    cases inverted with
    | true => exact Criteria.allAccept_invert cs r
    | false => exact Criteria.anyNegated_invert cs r
  | case6 e only =>
    intro h
    cases h
    rw [Scope.permits_eq, Scope.accepts_negation, List.all_cons, List.all_nil, Bool.and_true,
      Bool.not_not]
    rfl
  | case7 e children hmany =>
    intro h
    obtain ⟨ts, hts, rfl⟩ := conjunctionScope_eq_ok.mp h
    rw [Scope.negatesVoid_of_ne_singleton hmany, Scope.accepts_negation, Bool.not_not,
      Bool.false_or, ← accepts_conjunctionScope h]
    exact Scope.permits_eq _ r
  | case8 e children =>
    intro h
    rw [Scope.permits_of_not_isEmpty r (isEmpty_negationScope h), accepts_negationScope h,
      Scope.accepts_conjunction]
    rfl
  | case9 e children =>
    intro h
    rw [Scope.permits_of_not_isEmpty r (isEmpty_negationScope h), accepts_negationScope h,
      List.all_cons, List.all_nil, Bool.and_true]
    rfl

theorem not_eq_ok :
    d.not a b = .ok t ↔
      ∃ s, d.translate a = .ok s ∧ ∃ o, d.translate b = .ok o ∧
        (if o.isEmpty then s = t else ∃ c, d.complement o = .ok c ∧ d.and s c = .ok t) := by
  rw [not, bind_eq_ok]
  refine exists_congr fun s => and_congr_right fun _ => ?_
  rw [bind_eq_ok]
  refine exists_congr fun o => and_congr_right fun _ => ?_
  split
  · exact ⟨Except.ok.inj, congrArg Except.ok⟩
  · exact bind_eq_ok

/-- A scope and not another lets through what the first does and the second does not accept, a
negated void scope apart. -/
theorem permits_of_not (h : d.not a b = .ok s) (hb : b.isEmpty = false) (r : ρ) :
    s.permits r = (a.permits r && (b.negatesVoid || !b.accepts r)) := by
  obtain ⟨a', ha, b', hb', h⟩ := not_eq_ok.mp h
  have hempty : b'.isEmpty = false := by rw [isEmpty_of_translate hb', hb]
  rw [hempty] at h
  obtain ⟨c, hc, hand⟩ := h
  rw [permits_of_and hand, permits_of_translate ha, permits_complement hc hempty,
    negatesVoid_of_translate hb', accepts_of_translate hb']

theorem accepts_of_not (h : d.not a b = .ok s) (ha : a.isEmpty = false) (hb : b.isEmpty = false)
    (hs : s.isEmpty = false) (hvoid : b.negatesVoid = false) (r : ρ) :
    s.accepts r = (a.accepts r && !b.accepts r) := by
  have hpermits := permits_of_not h hb r
  rwa [hvoid, Bool.false_or, Scope.permits_of_not_isEmpty r hs,
    Scope.permits_of_not_isEmpty r ha] at hpermits

/-- A scope and the complement of another let through what the first one lets through and the second
one rejects. This fails just where the second one is the negation of a void scope: then nothing is
taken from the first. -/
theorem not_excludes_unless_negatesVoid (h : d.not a b = .ok s) (hb : b.isEmpty = false) (r : ρ) :
    s.permits r = (a.permits r && (b.negatesVoid || !b.accepts r)) ∧
      (s.permits r = (a.permits r && !b.accepts r) ↔
        ¬(b.negatesVoid = true ∧ a.permits r = true)) := by
  have hpermits := permits_of_not h hb r
  refine ⟨hpermits, ?_⟩
  rw [hpermits]
  cases hvoid : b.negatesVoid with
  | false => simp
  | true =>
    rw [Scope.accepts_of_negatesVoid hvoid]
    cases a.permits r <;> simp

/-- Every record but those that a disjunction accepts. -/
theorem not_excludes_disjunction :
    let a : Scope := .all basic
    let b : Scope := .disjunction ⟨"sql", [.null]⟩ [.criteria basic [⟨"x", .null, .null⟩] false]
    let s : Scope := .negation basic
      [.disjunction basic [.criteria basic [⟨"x", .null, .null⟩] false]]
    let r : LiteralMap := ⟨[("x", .bool true)]⟩
    (basic.not a b = .ok s ∧ b.isEmpty = false) ∧
      s.permits r = (a.permits r && (b.negatesVoid || !b.accepts r)) ∧
      (s.permits r = (a.permits r && !b.accepts r) ↔
        ¬(b.negatesVoid = true ∧ a.permits r = true)) := by
  intro a b s r
  have h : basic.not a b = .ok s := rfl
  have hb : b.isEmpty = false := rfl
  exact ⟨⟨h, hb⟩, not_excludes_unless_negatesVoid h hb r⟩

/-- The negation of an empty disjunction accepts every record, and its complement leaves the first
scope as it is. -/
theorem not_keeps_excluded_record :
    let void : Scope := .disjunction basic []
    let b : Scope := .negation basic [void]
    let a : Scope := .criteria basic [⟨"x", .notNull, .null⟩] false
    let r : LiteralMap := ⟨[("x", .bool true)]⟩
    (basic.disjunctionScope [] = .ok void ∧ basic.negationScope [void] = .ok b ∧
        basic.criteriaScope [⟨"x", .notNull, .null⟩] false = .ok a) ∧
      b.isEmpty = false ∧ basic.not a b = .ok a ∧
      a.permits r ≠ (a.permits r && !b.accepts r) :=
  ⟨⟨rfl, rfl, rfl⟩, rfl, rfl, by decide⟩

end QueryScope.Dialect
