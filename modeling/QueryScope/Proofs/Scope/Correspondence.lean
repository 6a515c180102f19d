import QueryScope.Proofs.Scope.Degenerate
import QueryScope.Proofs.Scope.Kind

/-!
# Corresponding scopes

Two scopes correspond if they are one tree in two dialects, with related criteria in the same
places. Composition looks at the kinds of its operands alone, so it takes the same steps in both
dialects, and what it makes there of corresponding scopes corresponds again. With equal criteria
this says that composing and changing the dialect can be done in either order.
-/
namespace QueryScope

/-- If two steps both succeed, their results are related. -/
def Together (R : α → β → Prop) (x : Except ε α) (y : Except ε β) : Prop :=
  ∀ a b, x = .ok a → y = .ok b → R a b

namespace Together

variable {α γ : Type u} {β δ : Type v} {R : α → β → Prop} {S : γ → δ → Prop} {x : Except ε α}
  {y : Except ε β}

theorem ok {a : α} {b : β} (h : R a b) : Together R (.ok a : Except ε α) (.ok b) := by
  rintro _ _ ⟨⟩ ⟨⟩
  exact h

theorem bind {f : α → Except ε γ} {g : β → Except ε δ} (h : Together R x y)
    (hfg : ∀ a b, R a b → Together S (f a) (g b)) : Together S (x >>= f) (y >>= g) := by
  intro c c' hc hc'
  obtain ⟨a, ha, hc⟩ := bind_eq_ok.mp hc
  obtain ⟨b, hb, hc'⟩ := bind_eq_ok.mp hc'
  exact hfg a b (h a b ha hb) c c' hc hc'

theorem map {f : α → γ} {g : β → δ} (h : Together R x y)
    (hfg : ∀ a b, R a b → S (f a) (g b)) : Together S (x.map f) (y.map g) := by
  intro c c' hc hc'
  obtain ⟨a, ha, rfl⟩ := map_eq_ok.mp hc
  obtain ⟨b, hb, rfl⟩ := map_eq_ok.mp hc'
  exact hfg a b (h a b ha hb)

end Together

theorem exists_concat_of_forall₂ {R : α → β → Prop} {as : List α} {bs : List β} {b : β}
    (h : List.Forall₂ R as (bs ++ [b])) :
    ∃ as' a, List.Forall₂ R as' bs ∧ R a b ∧ as = as' ++ [a] := by
  have hinit := List.forall₂_take_append as bs [b] h
  have hlast := List.forall₂_drop_append as bs [b] h
  obtain ⟨a, rest, hab, hrest, ha⟩ := List.forall₂_cons_right_iff.mp hlast
  obtain rfl := List.forall₂_nil_right_iff.mp hrest
  exact ⟨as.take bs.length, a, hinit, hab, by rw [← ha, List.take_append_drop]⟩

namespace Scope

/-- One tree in two dialects, with related criteria in the same places. -/
inductive Corresponds (d e : Dialect) (Q : Criterion → Criterion → Prop) : Scope → Scope → Prop
  | all : Corresponds d e Q (.all d) (.all e)
  | nothing : Corresponds d e Q (.nothing d) (.nothing e)
  | unscoped : Corresponds d e Q (.unscoped d) (.unscoped e)
  | criteria {cs ds : Criteria} {inverted : Bool} (h : List.Forall₂ Q cs ds) :
    Corresponds d e Q (.criteria d cs inverted) (.criteria e ds inverted)
  | conjunction {ss ts : List Scope} (h : List.Forall₂ (Corresponds d e Q) ss ts) :
    Corresponds d e Q (.conjunction d ss) (.conjunction e ts)
  | disjunction {ss ts : List Scope} (h : List.Forall₂ (Corresponds d e Q) ss ts) :
    Corresponds d e Q (.disjunction d ss) (.disjunction e ts)
  | negation {ss ts : List Scope} (h : List.Forall₂ (Corresponds d e Q) ss ts) :
    Corresponds d e Q (.negation d ss) (.negation e ts)

namespace Corresponds

variable {d e : Dialect} {Q : Criterion → Criterion → Prop} {s t : Scope}

theorem dialect_left (h : Corresponds d e Q s t) : s.dialect = d := by
  cases h <;> rfl

theorem dialect_right (h : Corresponds d e Q s t) : t.dialect = e := by
  cases h <;> rfl

theorem kind_eq (h : Corresponds d e Q s t) : t.kind = s.kind := by
  cases h with
  | @criteria _ _ inverted => cases inverted <;> rfl
  | _ => rfl

theorem isEmpty_eq (h : Corresponds d e Q s t) : t.isEmpty = s.isEmpty := by
  cases h with
  | criteria h | conjunction h | disjunction h => cases h <;> rfl
  | _ => rfl

theorem ownCriteria (h : Corresponds d e Q s t) : List.Forall₂ Q s.ownCriteria t.ownCriteria := by
  cases h with
  | criteria h => exact h
  | _ => exact .nil

theorem children (h : Corresponds d e Q s t) :
    List.Forall₂ (Corresponds d e Q) s.children t.children := by
  cases h with
  | conjunction h | disjunction h | negation h => exact h
  | _ => exact .nil

/-- A scope corresponds to the same tree in another dialect. -/
theorem inDialect (d e : Dialect) (s : Scope) :
    Corresponds d e Eq (s.inDialect d) (s.inDialect e) := by
  induction s using inductionOnChildren with
  | node s ih =>
    have hchildren : List.Forall₂ (Corresponds d e Eq)
        (s.children.map (Scope.inDialect d)) (s.children.map (Scope.inDialect e)) := by
      rw [List.forall₂_map_left_iff, List.forall₂_map_right_iff, List.forall₂_same]
      exact ih
    cases s with
    | all => exact .all
    | nothing => exact .nothing
    | unscoped => exact .unscoped
    | criteria e cs inverted => exact .criteria (List.forall₂_refl cs)
    | conjunction =>
      rw [Scope.inDialect, Scope.inDialect, allInDialect_eq, allInDialect_eq]
      exact .conjunction hchildren
    | disjunction =>
      rw [Scope.inDialect, Scope.inDialect, allInDialect_eq, allInDialect_eq]
      exact .disjunction hchildren
    | negation =>
      rw [Scope.inDialect, Scope.inDialect, allInDialect_eq, allInDialect_eq]
      exact .negation hchildren

/-- With equal criteria, a corresponding scope is the same tree in the other dialect. -/
theorem eq_inDialect (h : Corresponds d e Eq s t) : t = s.inDialect e := by
  induction s using inductionOnChildren generalizing t with
  | node s ih =>
    have hchildren : ∀ {ts}, List.Forall₂ (Corresponds d e Eq) s.children ts →
        ts = allInDialect e s.children := by
      intro ts hts
      have hboth := (List.forall₂_and_left _ _).mpr ⟨ih, hts⟩
      rw [allInDialect_eq, ← List.forall₂_eq_eq_eq, List.forall₂_map_right_iff]
      exact hboth.flip.imp fun _ _ hst => hst.1 hst.2
    cases h with
    | all | nothing | unscoped => rfl
    | criteria h =>
      rw [List.forall₂_eq_eq_eq] at h
      rw [Scope.inDialect, h]
    | conjunction h => exact congrArg (Scope.conjunction e) (hchildren h)
    | disjunction h => exact congrArg (Scope.disjunction e) (hchildren h)
    | negation h => exact congrArg (Scope.negation e) (hchildren h)

end Corresponds

end Scope

namespace Dialect

open Scope

variable {d e : Dialect} {Q : Criterion → Criterion → Prop} {s t o p : Scope} {ss ts : List Scope}

theorem criteriaScope_together {cs ds : Criteria} (h : List.Forall₂ Q cs ds) (inverted : Bool) :
    Together (Corresponds d e Q) (d.criteriaScope cs inverted) (e.criteriaScope ds inverted) := by
  intro x y hx hy
  obtain ⟨-, rfl⟩ := criteriaScope_eq_ok.mp hx
  obtain ⟨-, rfl⟩ := criteriaScope_eq_ok.mp hy
  exact .criteria h

section

variable (h : List.Forall₂ (Corresponds d e Q) ss ts)
include h

/-- Children of one dialect each stay as they are. -/
theorem translateAll_together :
    Together (List.Forall₂ (Corresponds d e Q)) (d.translateAll ss) (e.translateAll ts) := by
  have hleft : ∀ s ∈ ss, s.dialect = d := by
    intro s hs
    obtain ⟨t, -, hst⟩ := exists_mem_of_forall₂ h.flip s hs
    exact hst.dialect_left
  have hright : ∀ t ∈ ts, t.dialect = e := by
    intro t ht
    obtain ⟨s, -, hst⟩ := exists_mem_of_forall₂ h t ht
    exact hst.dialect_right
  rw [translateAll_of_dialect_eq hleft, translateAll_of_dialect_eq hright]
  exact .ok h

theorem conjunctionScope_together :
    Together (Corresponds d e Q) (d.conjunctionScope ss) (e.conjunctionScope ts) := by
  intro x y hx hy
  obtain ⟨ss', hss, rfl⟩ := conjunctionScope_eq_ok.mp hx
  obtain ⟨ts', hts, rfl⟩ := conjunctionScope_eq_ok.mp hy
  exact .conjunction (translateAll_together h ss' ts' hss hts)

theorem disjunctionScope_together :
    Together (Corresponds d e Q) (d.disjunctionScope ss) (e.disjunctionScope ts) := by
  intro x y hx hy
  obtain ⟨ss', hss, rfl⟩ := disjunctionScope_eq_ok.mp hx
  obtain ⟨ts', hts, rfl⟩ := disjunctionScope_eq_ok.mp hy
  exact .disjunction (translateAll_together h ss' ts' hss hts)

theorem negationScope_together :
    Together (Corresponds d e Q) (d.negationScope ss) (e.negationScope ts) := by
  intro x y hx hy
  obtain ⟨-, ss', hss, rfl⟩ := negationScope_eq_ok.mp hx
  obtain ⟨-, ts', hts, rfl⟩ := negationScope_eq_ok.mp hy
  exact .negation (translateAll_together h ss' ts' hss hts)

end

theorem appendCriteria_together {cs ds : Criteria} (h : List.Forall₂ (Corresponds d e Q) ss ts)
    (hcs : List.Forall₂ Q cs ds) (ho : Corresponds d e Q o p) :
    Together (List.Forall₂ (Corresponds d e Q)) (d.appendCriteria ss cs o)
      (e.appendCriteria ts ds p) := by
  rcases ts.eq_nil_or_concat' with rfl | ⟨init, last, rfl⟩
  · obtain rfl := List.forall₂_nil_right_iff.mp h
    rw [appendCriteria_nil, appendCriteria_nil]
    exact .ok (.cons ho .nil)
  · obtain ⟨init', last', hinit, hlast, rfl⟩ := exists_concat_of_forall₂ h
    rw [appendCriteria_concat, appendCriteria_concat, hlast.kind_eq]
    split
    · refine (criteriaScope_together (List.rel_append hlast.ownCriteria hcs) false).map ?_
      exact fun _ _ hmerged => List.rel_append hinit (.cons hmerged .nil)
    · exact .ok (List.rel_append h (.cons ho .nil))

theorem joinAnd_together (hs : Corresponds d e Q s t) (ho : Corresponds d e Q o p) :
    Together (Corresponds d e Q) (d.joinAnd s o) (e.joinAnd t p) := by
  rw [joinAnd_eq_by_kind, joinAnd_eq_by_kind, hs.kind_eq, ho.kind_eq]
  split
  · exact criteriaScope_together (List.rel_append hs.ownCriteria ho.ownCriteria) false
  · exact conjunctionScope_together (List.rel_append hs.children ho.children)
  · exact (appendCriteria_together hs.children ho.ownCriteria ho).bind
      fun _ _ => conjunctionScope_together
  · exact conjunctionScope_together (List.rel_append hs.children (.cons ho .nil))
  · exact conjunctionScope_together (.cons hs ho.children)
  · exact conjunctionScope_together (.cons hs (.cons ho .nil))

theorem joinOr_together (hs : Corresponds d e Q s t) (ho : Corresponds d e Q o p) :
    Together (Corresponds d e Q) (d.joinOr s o) (e.joinOr t p) := by
  rw [joinOr_eq_by_kind, joinOr_eq_by_kind, hs.kind_eq, ho.kind_eq]
  split
  · exact disjunctionScope_together (List.rel_append hs.children ho.children)
  · exact disjunctionScope_together (List.rel_append hs.children (.cons ho .nil))
  · exact disjunctionScope_together (.cons hs ho.children)
  · exact disjunctionScope_together (.cons hs (.cons ho .nil))

theorem meet_together (hs : Corresponds d e Q s t) (ho : Corresponds d e Q o p) :
    Together (Corresponds d e Q) (d.meet s o) (e.meet t p) := by
  rw [meet_eq_by_kind, meet_eq_by_kind, hs.kind_eq, ho.kind_eq, hs.isEmpty_eq, ho.isEmpty_eq]
  split
  · exact .ok hs
  split
  · exact .ok .nothing
  · exact .ok .nothing
  · exact .ok ho
  · exact .ok hs
  · split
    · exact .ok ho
    · exact joinAnd_together hs ho

theorem union_together (hs : Corresponds d e Q s t) (ho : Corresponds d e Q o p) :
    Together (Corresponds d e Q) (d.union s o) (e.union t p) := by
  rw [union_eq_by_kind, union_eq_by_kind, hs.kind_eq, ho.kind_eq, hs.isEmpty_eq, ho.isEmpty_eq]
  split
  · exact .ok hs
  split
  · exact .ok .all
  · exact .ok .all
  · exact .ok ho
  · exact .ok hs
  · split
    · exact .ok ho
    · exact joinOr_together hs ho

/-- Corresponding scopes have corresponding complements, or fail together. -/
theorem complement_together (hQ : ∀ c c', Q c c' → Q c.invert c'.invert)
    (hs : Corresponds d e Q s t) :
    Together (Corresponds d e Q) (d.complement s) (e.complement t) := by
  have hinverted : List.Forall₂ Q s.ownCriteria.invert t.ownCriteria.invert := by
    rw [Criteria.invert, Criteria.invert, List.forall₂_map_left_iff, List.forall₂_map_right_iff]
    exact hs.ownCriteria.imp hQ
  rw [complement_eq_by_kind, complement_eq_by_kind, hs.kind_eq, hs.isEmpty_eq]
  split
  · exact .ok .unscoped
  split
  · exact .ok .nothing
  · exact .ok .all
  · exact .ok .unscoped
  · exact criteriaScope_together hinverted true
  · exact criteriaScope_together hinverted false
  · -- the children are unwrapped on both sides or on neither
    have hchildren := hs.children
    generalize s.children = ss at hchildren ⊢
    generalize t.children = ts at hchildren ⊢
    rcases hchildren with _ | ⟨honly, _ | ⟨hsecond, hrest⟩⟩
    · exact conjunctionScope_together .nil
    · exact .ok honly
    · exact conjunctionScope_together (.cons honly (.cons hsecond hrest))
  · exact negationScope_together hs.children
  · exact negationScope_together (.cons hs .nil)

section

variable (hs : Together (Corresponds d e Q) (d.translate s) (e.translate t))
  (ho : Together (Corresponds d e Q) (d.translate o) (e.translate p))
include hs ho

theorem and_together : Together (Corresponds d e Q) (d.and s o) (e.and t p) :=
  hs.bind fun _ _ hs => ho.bind fun _ _ ho => meet_together hs ho

theorem or_together : Together (Corresponds d e Q) (d.or s o) (e.or t p) :=
  hs.bind fun _ _ hs => ho.bind fun _ _ ho => union_together hs ho

end

/-- What corresponds already stays as it is when it is taken over. -/
theorem translate_together (hs : Corresponds d e Q s t) :
    Together (Corresponds d e Q) (d.translate s) (e.translate t) := by
  rw [translate_of_dialect_eq hs.dialect_left, translate_of_dialect_eq hs.dialect_right]
  exact .ok hs

/-- Complements of what corresponds after translation correspond, or fail together. -/
theorem not_together (hQ : ∀ c c', Q c c' → Q c.invert c'.invert)
    (hs : Together (Corresponds d e Q) (d.translate s) (e.translate t))
    (ho : Together (Corresponds d e Q) (d.translate o) (e.translate p)) :
    Together (Corresponds d e Q) (d.not s o) (e.not t p) := by
  refine hs.bind fun s t hs => ho.bind fun o p ho => ?_
  rw [ho.isEmpty_eq]
  split
  · exact .ok hs
  · refine (complement_together hQ ho).bind fun _ _ hc => ?_
    exact and_together (translate_together hs) (translate_together hc)

/-- A well-formed scope of any dialect gives corresponding scopes in two others. -/
theorem translate_self_together {d₀ : Dialect} (h : s.WellFormed d₀) :
    Together (Corresponds d e Eq) (d.translate s) (e.translate s) := by
  intro x y hx hy
  rw [translate_eq_ifSupported h] at hx hy
  obtain ⟨-, rfl⟩ := ifSupported_eq_ok.mp hx
  obtain ⟨-, rfl⟩ := ifSupported_eq_ok.mp hy
  exact .inDialect d e s

/-- The first scope stores the operators of the second, so the dialect of the second takes it
over. -/
theorem translate_of_corresponds {x y : Scope} (h : Corresponds d e Eq x y) (hx : x.WellFormed d)
    (hy : y.WellFormed e) : e.translate x = .ok y := by
  have hsame := h.eq_inDialect
  have hsupported : ∀ op ∈ x.operators, e.supports op = true := by
    rw [← operators_inDialect e x, ← hsame]
    exact supports_of_mem_operators hy
  rw [translate_eq_ifSupported hx, ifSupported_of_forall hsupported, hsame]

/-- Scopes that builders made of any dialects, composed in one dialect and taken over into another,
give the very scope that composing them in the other dialect gives. -/
theorem translate_of_composed {a b : Scope} (ha : a.Made) (hb : b.Made) (d e : Dialect) :
    (∀ x y, d.and a b = .ok x → e.and a b = .ok y → e.translate x = .ok y) ∧
      (∀ x y, d.or a b = .ok x → e.or a b = .ok y → e.translate x = .ok y) ∧
      ∀ x y, d.not a b = .ok x → e.not a b = .ok y → e.translate x = .ok y := by
  have hsa := translate_self_together (d := d) (e := e) ha.wellFormed
  have hsb := translate_self_together (d := d) (e := e) hb.wellFormed
  have hinvert : ∀ c c' : Criterion, c = c' → c.invert = c'.invert := fun _ _ => congrArg _
  refine ⟨fun x y hx hy => ?_, fun x y hx hy => ?_, fun x y hx hy => ?_⟩
  · exact translate_of_corresponds (and_together hsa hsb x y hx hy)
      (wellFormed_of_and hx ha.wellFormed hb.wellFormed)
      (wellFormed_of_and hy ha.wellFormed hb.wellFormed)
  · exact translate_of_corresponds (or_together hsa hsb x y hx hy)
      (wellFormed_of_or hx ha.wellFormed hb.wellFormed)
      (wellFormed_of_or hy ha.wellFormed hb.wellFormed)
  · exact translate_of_corresponds (not_together hinvert hsa hsb x y hx hy)
      (wellFormed_of_not hx ha.wellFormed hb.wellFormed)
      (wellFormed_of_not hy ha.wellFormed hb.wellFormed)

/-- A negation of one dialect without criteria of another. The complement of the criteria stores an
operator that their own dialect lacks. -/
theorem translate_of_composed_negation :
    let x : Criterion := ⟨"x", .null, .null⟩
    let y : Criterion := ⟨"y", .notNull, .null⟩
    let bare : Dialect := ⟨"bare", [.notNull]⟩
    let sql : Dialect := ⟨"sql", [.null, .notNull]⟩
    let a : Scope := .negation basic [.criteria basic [x] false]
    let b : Scope := .criteria bare [y] false
    (a.Made ∧ b.Made) ∧
      ∃ s t, sql.not a b = .ok s ∧ basic.not a b = .ok t ∧ basic.translate s = .ok t := by
  intro x y bare sql a b
  have hxwell : x.WellFormed := ⟨by decide, nofun, fun _ => rfl⟩
  have hywell : y.WellFormed := ⟨by decide, nofun, fun _ => rfl⟩
  have hnegated : (Scope.criteria basic [x] false).WellFormed basic :=
    wellFormed_of_criteriaScope rfl (List.forall_mem_singleton.mpr hxwell)
  have ha : a.WellFormed basic :=
    .node ((keeps_wellFormed basic).negation (List.cons_ne_nil _ _))
      (List.forall_mem_singleton.mpr hnegated)
  have hb : b.WellFormed bare :=
    wellFormed_of_criteriaScope rfl (List.forall_mem_singleton.mpr hywell)
  have hlaw := translate_of_composed ha.madeBy.made hb.madeBy.made sql basic
  exact ⟨⟨ha.madeBy.made, hb.madeBy.made⟩, _, _, rfl, rfl, hlaw.2.2 _ _ rfl rfl⟩

end Dialect
end QueryScope
