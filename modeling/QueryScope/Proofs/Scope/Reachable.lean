import QueryScope.Proofs.Scope.WellFormed

/-!
# Scopes that builders make

Builders of any dialects run one operation after the other, each on scopes made before. What they
make are exactly the well-formed scopes of the dialect that ran the last operation.
-/
namespace QueryScope

/-- One call of a builder. -/
inductive Operation where
  | all
  | nothing
  | unscoped
  | criteria (cs : Criteria) (inverted : Bool)
  | conjunction (scopes : List Scope)
  | disjunction (scopes : List Scope)
  | negation (scopes : List Scope)
  | build (hash block : Option Filter)
  | translate (scope : Scope)
  | and (scope other : Scope)
  | or (scope other : Scope)
  | not (scope other : Scope)
  | filter (scope : Scope) (hash block : Option Filter)

namespace Operation

/-- What a call returns in the builder of a dialect. -/
def run (d : Dialect) : Operation → Except Failure Scope
  | .all => .ok (.all d)
  | .nothing => .ok (.nothing d)
  | .unscoped => .ok (.unscoped d)
  | .criteria cs inverted => d.criteriaScope cs inverted
  | .conjunction scopes => d.conjunctionScope scopes
  | .disjunction scopes => d.disjunctionScope scopes
  | .negation scopes => d.negationScope scopes
  | .build hash block => d.filterScope hash block
  | .translate scope => d.translate scope
  | .and scope other => d.and scope other
  | .or scope other => d.or scope other
  | .not scope other => d.not scope other
  | .filter scope hash block => d.filter scope hash block

def operands : Operation → List Scope
  | .conjunction scopes | .disjunction scopes | .negation scopes => scopes
  | .translate scope | .filter scope _ _ => [scope]
  | .and scope other | .or scope other | .not scope other => [scope, other]
  | _ => []

def givenCriteria : Operation → Criteria
  | .criteria cs _ => cs
  | _ => []

end Operation

/-- The scopes that builders make. -/
inductive Scope.Made : Scope → Prop
  | step {d : Dialect} {op : Operation} {s : Scope} (criteria : op.givenCriteria.Made)
      (operands : ∀ t ∈ op.operands, Made t) (run : op.run d = .ok s) : Made s

/-- The scopes whose last operation a builder of one dialect ran. -/
def Scope.MadeBy (d : Dialect) (s : Scope) : Prop :=
  ∃ op : Operation, op.givenCriteria.Made ∧ (∀ t ∈ op.operands, t.Made) ∧ op.run d = .ok s

namespace Dialect

variable {d : Dialect} {s t : Scope}

theorem wellFormed_of_translateAll {ss ts : List Scope} (h : d.translateAll ss = .ok ts)
    (hss : ∀ s ∈ ss, ∃ e, s.WellFormed e) : ∀ t ∈ ts, t.WellFormed d := by
  intro t ht
  obtain ⟨s, hs, hst⟩ := exists_mem_of_forall₂ (translateAll_eq_ok.mp h) t ht
  obtain ⟨e, he⟩ := hss s hs
  exact wellFormed_of_translate hst he

theorem wellFormed_of_criteriaScope {cs : Criteria} {inverted : Bool}
    (h : d.criteriaScope cs inverted = .ok s) (hcs : ∀ c ∈ cs, c.WellFormed) :
    s.WellFormed d := by
  obtain ⟨hsupported, rfl⟩ := criteriaScope_eq_ok.mp h
  exact .leaf ⟨rfl, hsupported, hcs, nofun⟩ rfl

theorem wellFormed_of_filterScope {filter block : Option Filter}
    (h : d.filterScope filter block = .ok s) : s.WellFormed d := by
  obtain ⟨cs, hcs, h⟩ := bind_eq_ok.mp h
  exact wellFormed_of_criteriaScope h
    (Filter.wellFormed_of_criteria (Filter.criteria_of_criteriaOf hcs))

/-- The complement of criteria is built only if the dialect supports it. -/
theorem supports_invert_of_complement (h : d.complement s = .ok t) (hs : s.isEmpty = false) :
    ∀ c ∈ s.ownCriteria, d.supports c.operator.invert = true := by
  cases s with
  | criteria e cs inverted =>
    rw [complement, if_neg (Bool.eq_false_iff.mp hs)] at h
    exact List.forall_mem_map.mp (criteriaScope_eq_ok.mp h).1
  | _ => nofun

theorem wellFormed_of_complement (h : d.complement s = .ok t) (hs : s.WellFormed d)
    (hne : s.isEmpty = false) : t.WellFormed d :=
  ((keeps_wellFormed d).complement hs hne (supports_invert_of_complement h hne)).of_eq_ok h

theorem wellFormed_of_and {a b : Scope} {e e' : Dialect} (h : d.and a b = .ok s)
    (ha : a.WellFormed e) (hb : b.WellFormed e') : s.WellFormed d := by
  obtain ⟨a', ha', b', hb', hmeet⟩ := and_eq_ok.mp h
  exact ((keeps_wellFormed d).meet (wellFormed_of_translate ha' ha)
    (wellFormed_of_translate hb' hb)).of_eq_ok hmeet

theorem wellFormed_of_or {a b : Scope} {e e' : Dialect} (h : d.or a b = .ok s)
    (ha : a.WellFormed e) (hb : b.WellFormed e') : s.WellFormed d := by
  obtain ⟨a', ha', b', hb', hunion⟩ := or_eq_ok.mp h
  exact ((keeps_wellFormed d).union (wellFormed_of_translate ha' ha)
    (wellFormed_of_translate hb' hb)).of_eq_ok hunion

theorem wellFormed_of_not {a b : Scope} {e e' : Dialect} (h : d.not a b = .ok s)
    (ha : a.WellFormed e) (hb : b.WellFormed e') : s.WellFormed d := by
  obtain ⟨a', ha', b', hb', h⟩ := not_eq_ok.mp h
  have ha := wellFormed_of_translate ha' ha
  have hb := wellFormed_of_translate hb' hb
  split at h
  · exact h ▸ ha
  · rename_i hempty
    rw [Bool.not_eq_true] at hempty
    obtain ⟨c, hc, hand⟩ := h
    exact wellFormed_of_and hand ha (wellFormed_of_complement hc hb hempty)

end Dialect

open Dialect

/-- Each call turns well-formed scopes of any dialects into one of its own. -/
theorem Operation.run_wellFormed {d : Dialect} {op : Operation} {s : Scope}
    (hcriteria : op.givenCriteria.Made) (hoperands : ∀ t ∈ op.operands, ∃ e, t.WellFormed e)
    (h : op.run d = .ok s) : s.WellFormed d := by
  cases op with
  | all =>
    cases h
    exact .leaf (keeps_wellFormed d).all rfl
  | nothing =>
    cases h
    exact .leaf (keeps_wellFormed d).nothing rfl
  | unscoped =>
    cases h
    exact Scope.wellFormed_unscoped d
  | criteria cs inverted =>
    exact wellFormed_of_criteriaScope h (Criteria.made_iff_wellFormed.mp hcriteria)
  | conjunction scopes =>
    obtain ⟨ts, hts, rfl⟩ := conjunctionScope_eq_ok.mp h
    exact .node (.of_no_criteria rfl rfl nofun) (wellFormed_of_translateAll hts hoperands)
  | disjunction scopes =>
    obtain ⟨ts, hts, rfl⟩ := disjunctionScope_eq_ok.mp h
    exact .node (.of_no_criteria rfl rfl nofun) (wellFormed_of_translateAll hts hoperands)
  | negation scopes =>
    obtain ⟨hne, ts, hts, rfl⟩ := negationScope_eq_ok.mp h
    have hts_ne : ts ≠ [] := by
      rintro rfl
      exact hne (List.forall₂_nil_right_iff.mp (translateAll_eq_ok.mp hts))
    exact .node ((keeps_wellFormed d).negation hts_ne) (wellFormed_of_translateAll hts hoperands)
  | build hash block => exact wellFormed_of_filterScope h
  | translate scope =>
    obtain ⟨e, he⟩ := hoperands scope List.mem_cons_self
    exact wellFormed_of_translate h he
  | and scope other =>
    obtain ⟨e, he⟩ := hoperands scope List.mem_cons_self
    obtain ⟨e', he'⟩ := hoperands other (List.mem_cons_of_mem _ List.mem_cons_self)
    exact wellFormed_of_and h he he'
  | or scope other =>
    obtain ⟨e, he⟩ := hoperands scope List.mem_cons_self
    obtain ⟨e', he'⟩ := hoperands other (List.mem_cons_of_mem _ List.mem_cons_self)
    exact wellFormed_of_or h he he'
  | not scope other =>
    obtain ⟨e, he⟩ := hoperands scope List.mem_cons_self
    obtain ⟨e', he'⟩ := hoperands other (List.mem_cons_of_mem _ List.mem_cons_self)
    exact wellFormed_of_not h he he'
  | filter scope hash block =>
    obtain ⟨e, he⟩ := hoperands scope List.mem_cons_self
    obtain ⟨built, hbuilt, h⟩ := bind_eq_ok.mp h
    exact wellFormed_of_and h he (wellFormed_of_filterScope hbuilt)

namespace Scope

variable {d : Dialect} {s : Scope}

/-- By induction over the calls, each scope that is made is well-formed. -/
theorem Made.exists_wellFormed (h : s.Made) : ∃ d, s.WellFormed d := by
  induction h with
  | step hcriteria _ run ih => exact ⟨_, Operation.run_wellFormed hcriteria ih run⟩

theorem Made.wellFormed (h : s.Made) : s.WellFormed s.dialect := by
  obtain ⟨d, hs⟩ := h.exists_wellFormed
  exact hs.here.dialect_eq ▸ hs

theorem MadeBy.wellFormed (h : s.MadeBy d) : s.WellFormed d := by
  obtain ⟨op, hcriteria, hoperands, run⟩ := h
  exact Operation.run_wellFormed hcriteria (fun t ht => (hoperands t ht).exists_wellFormed) run

theorem MadeBy.made (h : s.MadeBy d) : s.Made := by
  obtain ⟨op, hcriteria, hoperands, run⟩ := h
  exact .step hcriteria hoperands run

/-- By induction over the tree, a well-formed scope is made by the calls of its dialect. -/
theorem WellFormed.madeBy (h : s.WellFormed d) : s.MadeBy d := by
  induction h with
  | @node s hs hchildren ih =>
    have hnone : Criteria.Made [] := .collect nofun
    have hmade : ∀ t ∈ s.children, t.Made := fun t ht => (ih t ht).made
    have htranslate : d.translateAll s.children = .ok s.children :=
      translateAll_of_dialect_eq fun t ht => (hchildren t ht).here.dialect_eq
    obtain rfl := hs.dialect_eq
    -- the call that builds the node, run on its children
    cases s with
    | all e => exact ⟨.all, hnone, nofun, rfl⟩
    | nothing e => exact ⟨.nothing, hnone, nofun, rfl⟩
    | unscoped e => exact ⟨.unscoped, hnone, nofun, rfl⟩
    | criteria e cs inverted =>
      exact ⟨.criteria cs inverted, Criteria.made_iff_wellFormed.mpr hs.criteria, nofun,
        criteriaScope_eq_ok.mpr ⟨hs.supported, rfl⟩⟩
    | conjunction e children =>
      exact ⟨.conjunction children, hnone, hmade,
        conjunctionScope_eq_ok.mpr ⟨children, htranslate, rfl⟩⟩
    | disjunction e children =>
      exact ⟨.disjunction children, hnone, hmade,
        disjunctionScope_eq_ok.mpr ⟨children, htranslate, rfl⟩⟩
    | negation e children =>
      exact ⟨.negation children, hnone, hmade, negationScope_eq_ok.mpr
        ⟨fun hnil => hs.child e (hnil ▸ rfl), children, htranslate, rfl⟩⟩

/-- The scopes whose last operation ran in a dialect are those all of whose nodes belong to the
dialect, hold only criteria that it supports and that can be made, and negate something if they
negate. -/
theorem madeBy_iff_wellFormed : s.MadeBy d ↔ s.WellFormed d :=
  ⟨MadeBy.wellFormed, WellFormed.madeBy⟩

end Scope
end QueryScope
