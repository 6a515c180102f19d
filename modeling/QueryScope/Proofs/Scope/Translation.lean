import QueryScope.Proofs.Scope.Meaning
import QueryScope.Proofs.Scope.Tree
import QueryScope.Proofs.Success
import QueryScope.Scope.Build

/-!
# Scopes taken over into another dialect

One equation for each way to build a node, and one induction over what taking over does to a tree:
it either leaves a scope of the dialect alone or rebuilds the node over children taken over in turn.
Neither the records accepted nor whether there is a condition at all depend on it.
-/
namespace QueryScope.Dialect

variable {d : Dialect}

theorem criteriaScope_eq_ok {cs : Criteria} {inverted : Bool} {s : Scope} :
    d.criteriaScope cs inverted = .ok s ↔
      (∀ c ∈ cs, d.supports c.operator = true) ∧ s = .criteria d cs inverted := by
  unfold criteriaScope
  split
  · rename_i c hc
    have hmem := List.mem_of_find?_eq_some hc
    have hno := List.find?_some hc
    constructor
    · intro h
      cases h
    · intro h
      simp [h.1 c hmem] at hno
  · rename_i hnone
    rw [List.find?_eq_none] at hnone
    constructor
    · intro h
      exact ⟨fun c hc => by simpa using hnone c hc, (Except.ok.inj h).symm⟩
    · intro h
      rw [h.2]

theorem translateAll_eq_mapM (scopes : List Scope) :
    d.translateAll scopes = scopes.mapM d.translate := by
  induction scopes with
  | nil => rw [List.mapM_nil]; rfl
  | cons s rest ih => rw [List.mapM_cons, ← ih]; rfl

/-- A list translates scope by scope. -/
theorem translateAll_eq_ok {ss ts : List Scope} :
    d.translateAll ss = .ok ts ↔ List.Forall₂ (fun s t => d.translate s = .ok t) ss ts := by
  rw [translateAll_eq_mapM, mapM_eq_ok]

theorem conjunctionScope_eq_ok {scopes : List Scope} {s : Scope} :
    d.conjunctionScope scopes = .ok s ↔
      ∃ ts, d.translateAll scopes = .ok ts ∧ s = .conjunction d ts := by
  rw [conjunctionScope, map_eq_ok]
  exact exists_congr fun ts => and_congr_right fun _ => eq_comm

theorem disjunctionScope_eq_ok {scopes : List Scope} {s : Scope} :
    d.disjunctionScope scopes = .ok s ↔
      ∃ ts, d.translateAll scopes = .ok ts ∧ s = .disjunction d ts := by
  rw [disjunctionScope, map_eq_ok]
  exact exists_congr fun ts => and_congr_right fun _ => eq_comm

theorem negationScope_eq_ok {scopes : List Scope} {s : Scope} :
    d.negationScope scopes = .ok s ↔
      scopes ≠ [] ∧ ∃ ts, d.translateAll scopes = .ok ts ∧ s = .negation d ts := by
  unfold negationScope
  cases scopes with
  | nil => simp
  | cons first rest =>
    simp only [List.isEmpty_cons, Bool.false_eq_true, if_false, map_eq_ok, ne_eq,
      reduceCtorEq, not_false_eq_true, true_and]
    exact exists_congr fun ts => and_congr_right fun _ => eq_comm

/-- A scope of the dialect stays as it is. -/
theorem translate_of_dialect_eq {s : Scope} (h : s.dialect = d) : d.translate s = .ok s := by
  rw [translate.eq_def, if_pos h]

theorem translateAll_of_dialect_eq {scopes : List Scope} (h : ∀ s ∈ scopes, s.dialect = d) :
    d.translateAll scopes = .ok scopes := by
  rw [translateAll_eq_ok, List.forall₂_same]
  exact fun s hs => translate_of_dialect_eq (h s hs)

/-- A scope of another dialect is built again, kind by kind, in this one. -/
theorem translate_of_dialect_ne {s : Scope} (h : s.dialect ≠ d) :
    d.translate s = match s with
      | .all _ => .ok (.all d)
      | .nothing _ => .ok (.nothing d)
      | .unscoped _ => .ok (.unscoped d)
      | .criteria _ cs inverted => d.criteriaScope cs inverted
      | .conjunction _ children => d.conjunctionScope children
      | .disjunction _ children => d.disjunctionScope children
      | .negation _ children => d.negationScope children := by
  rw [translate.eq_def, if_neg h]
  cases s with
  | negation e children => cases children <;> rfl
  | _ => rfl

/-- What relates each node to its copy over related children relates a scope to the one taken
over. -/
theorem rel_of_translate_eq_ok {R : Scope → Scope → Prop}
    (same : ∀ s, s.dialect = d → R s s)
    (all : ∀ e, R (.all e) (.all d)) (nothing : ∀ e, R (.nothing e) (.nothing d))
    (unscoped : ∀ e, R (.unscoped e) (.unscoped d))
    (criteria : ∀ e cs inverted, (∀ c ∈ cs, d.supports c.operator = true) →
      R (.criteria e cs inverted) (.criteria d cs inverted))
    (conjunction : ∀ e ss ts, List.Forall₂ R ss ts → R (.conjunction e ss) (.conjunction d ts))
    (disjunction : ∀ e ss ts, List.Forall₂ R ss ts → R (.disjunction e ss) (.disjunction d ts))
    (negation : ∀ e ss ts, ss ≠ [] → List.Forall₂ R ss ts →
      R (.negation e ss) (.negation d ts))
    {s t : Scope} (h : d.translate s = .ok t) : R s t := by
  induction s using Scope.inductionOnChildren generalizing t with
  | node s ih =>
    -- each child is related to its copy, since the copies are made by runs on the children
    have children : ∀ {ts}, d.translateAll s.children = .ok ts → List.Forall₂ R s.children ts := by
      intro ts hts
      have hboth := (List.forall₂_and_left _ _).mpr ⟨ih, translateAll_eq_ok.mp hts⟩
      exact hboth.imp fun _ _ hst => hst.1 hst.2
    by_cases hd : s.dialect = d
    · rw [translate_of_dialect_eq hd, Except.ok.injEq] at h
      exact h ▸ same s hd
    rw [translate_of_dialect_ne hd] at h
    cases s with
    | all e =>
      cases h
      exact all e
    | nothing e =>
      cases h
      exact nothing e
    | unscoped e =>
      cases h
      exact unscoped e
    | criteria e cs inverted =>
      obtain ⟨hcs, rfl⟩ := criteriaScope_eq_ok.mp h
      exact criteria e cs inverted hcs
    | conjunction e ss =>
      obtain ⟨ts, hts, rfl⟩ := conjunctionScope_eq_ok.mp h
      exact conjunction e ss ts (children hts)
    | disjunction e ss =>
      obtain ⟨ts, hts, rfl⟩ := disjunctionScope_eq_ok.mp h
      exact disjunction e ss ts (children hts)
    | negation e ss =>
      obtain ⟨hne, ts, hts, rfl⟩ := negationScope_eq_ok.mp h
      exact negation e ss ts hne (children hts)

theorem isEmpty_eq_of_forall₂ {R : Scope → Scope → Prop} {ss ts : List Scope}
    (h : List.Forall₂ R ss ts) : ts.isEmpty = ss.isEmpty := by
  cases h <;> rfl

/-- Translation keeps a scope empty or not. -/
theorem isEmpty_of_translate {s t : Scope} (h : d.translate s = .ok t) :
    t.isEmpty = s.isEmpty := by
  apply rel_of_translate_eq_ok (R := fun s t => t.isEmpty = s.isEmpty) (h := h)
  case conjunction => exact fun _ _ _ hts => isEmpty_eq_of_forall₂ hts
  case disjunction => exact fun _ _ _ hts => isEmpty_eq_of_forall₂ hts
  all_goals intros; rfl

theorem isEmpty_criteriaScope {cs : Criteria} {inverted : Bool} {t : Scope}
    (h : d.criteriaScope cs inverted = .ok t) : t.isEmpty = cs.isEmpty := by
  obtain ⟨-, rfl⟩ := criteriaScope_eq_ok.mp h
  rfl

theorem isEmpty_conjunctionScope {ss : List Scope} {t : Scope}
    (h : d.conjunctionScope ss = .ok t) : t.isEmpty = ss.isEmpty := by
  obtain ⟨ts, hts, rfl⟩ := conjunctionScope_eq_ok.mp h
  exact isEmpty_eq_of_forall₂ (translateAll_eq_ok.mp hts)

theorem isEmpty_disjunctionScope {ss : List Scope} {t : Scope}
    (h : d.disjunctionScope ss = .ok t) : t.isEmpty = ss.isEmpty := by
  obtain ⟨ts, hts, rfl⟩ := disjunctionScope_eq_ok.mp h
  exact isEmpty_eq_of_forall₂ (translateAll_eq_ok.mp hts)

theorem isEmpty_negationScope {ss : List Scope} {t : Scope}
    (h : d.negationScope ss = .ok t) : t.isEmpty = false := by
  obtain ⟨-, ts, -, rfl⟩ := negationScope_eq_ok.mp h
  rfl

variable {ρ : Type u} [Record ρ]

theorem all_accepts_of_forall₂ {r : ρ} {ss ts : List Scope}
    (h : List.Forall₂ (fun s t => t.accepts r = s.accepts r) ss ts) :
    ts.all (Scope.accepts r) = ss.all (Scope.accepts r) := by
  induction h with
  | nil => rfl
  | cons hst _ ih => rw [List.all_cons, List.all_cons, hst, ih]

theorem any_accepts_of_forall₂ {r : ρ} {ss ts : List Scope}
    (h : List.Forall₂ (fun s t => t.accepts r = s.accepts r) ss ts) :
    ts.any (Scope.accepts r) = ss.any (Scope.accepts r) := by
  induction h with
  | nil => rfl
  | cons hst _ ih => rw [List.any_cons, List.any_cons, hst, ih]

/-- Translation keeps the meaning of a scope. -/
theorem accepts_of_translate {s t : Scope} (h : d.translate s = .ok t) (r : ρ) :
    t.accepts r = s.accepts r := by
  apply rel_of_translate_eq_ok (R := fun s t => t.accepts r = s.accepts r) (h := h)
  case conjunction =>
    intro e ss ts hts
    rw [Scope.accepts_conjunction, Scope.accepts_conjunction, all_accepts_of_forall₂ hts]
  case disjunction =>
    intro e ss ts hts
    rw [Scope.accepts_disjunction, Scope.accepts_disjunction, any_accepts_of_forall₂ hts]
  case negation =>
    intro e ss ts _ hts
    rw [Scope.accepts_negation, Scope.accepts_negation, all_accepts_of_forall₂ hts]
  all_goals intros; rfl

theorem all_accepts_of_translateAll {ss ts : List Scope} (h : d.translateAll ss = .ok ts)
    (r : ρ) : ts.all (Scope.accepts r) = ss.all (Scope.accepts r) :=
  all_accepts_of_forall₂ ((translateAll_eq_ok.mp h).imp fun _ _ hst => accepts_of_translate hst r)

theorem permits_of_translate {s t : Scope} (h : d.translate s = .ok t) (r : ρ) :
    t.permits r = s.permits r := by
  rw [Scope.permits, Scope.permits, isEmpty_of_translate h, accepts_of_translate h]

theorem accepts_criteriaScope {cs : Criteria} {inverted : Bool} {t : Scope}
    (h : d.criteriaScope cs inverted = .ok t) (r : ρ) :
    t.accepts r = if inverted then cs.anyNegated r else cs.allAccept r := by
  obtain ⟨-, rfl⟩ := criteriaScope_eq_ok.mp h
  rfl

theorem accepts_conjunctionScope {ss : List Scope} {t : Scope}
    (h : d.conjunctionScope ss = .ok t) (r : ρ) : t.accepts r = ss.all (Scope.accepts r) := by
  obtain ⟨ts, hts, rfl⟩ := conjunctionScope_eq_ok.mp h
  rw [Scope.accepts_conjunction, all_accepts_of_translateAll hts]

theorem accepts_disjunctionScope {ss : List Scope} {t : Scope}
    (h : d.disjunctionScope ss = .ok t) (r : ρ) : t.accepts r = ss.any (Scope.accepts r) := by
  obtain ⟨ts, hts, rfl⟩ := disjunctionScope_eq_ok.mp h
  rw [Scope.accepts_disjunction]
  exact any_accepts_of_forall₂ ((translateAll_eq_ok.mp hts).imp fun _ _ hst =>
    accepts_of_translate hst r)

theorem accepts_negationScope {ss : List Scope} {t : Scope}
    (h : d.negationScope ss = .ok t) (r : ρ) : t.accepts r = !ss.all (Scope.accepts r) := by
  obtain ⟨-, ts, hts, rfl⟩ := negationScope_eq_ok.mp h
  rw [Scope.accepts_negation, all_accepts_of_translateAll hts]

end QueryScope.Dialect
