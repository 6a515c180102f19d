import QueryScope.Proofs.Sameness
import QueryScope.Proofs.Scope.Correspondence
import QueryScope.Proofs.Scope.Failure

/-!
# Sameness of scopes

Two scopes are the same if they are one tree of one dialect, with the same criteria in the same
places. Nothing tells them apart: they accept the same records, and whatever they are composed with,
in whatever dialect, both compositions fail alike or give scopes that are the same again.
-/
namespace QueryScope

/-- Two steps fail alike, or both succeed and their results are related. -/
def SameOutcome (R : α → β → Prop) : Except ε α → Except ε β → Prop
  | .ok a, .ok b => R a b
  | .error e, .error f => e = f
  | _, _ => False

namespace SameOutcome

variable {α β γ δ : Type u} {R : α → β → Prop} {S : γ → δ → Prop} {x : Except ε α} {y : Except ε β}

theorem of_yields {P : α → Prop} {Q : β → Prop} (hx : Yields x P) (hy : Yields y Q)
    (h : ∀ a b, x = .ok a → y = .ok b → P a → Q b → R a b) : SameOutcome R x y := by
  obtain ⟨a, rfl, ha⟩ := hx
  obtain ⟨b, rfl, hb⟩ := hy
  exact h a b rfl rfl ha hb

theorem bind {f : α → Except ε γ} {g : β → Except ε δ} (h : SameOutcome R x y)
    (hfg : ∀ a b, R a b → SameOutcome S (f a) (g b)) : SameOutcome S (x >>= f) (y >>= g) := by
  cases x <;> cases y
  case ok.ok a b => exact hfg a b h
  case error.error => exact h
  all_goals exact h.elim

theorem imp {R' : α → β → Prop} (h : SameOutcome R x y) (hR : ∀ a b, R a b → R' a b) :
    SameOutcome R' x y := by
  cases x <;> cases y
  case ok.ok a b => exact hR a b h
  all_goals exact h

end SameOutcome

namespace Scope

variable {d e : Dialect} {s t : Scope} {Q : Criterion → Criterion → Prop}

theorem sameAll_iff {R : Scope → Scope → Prop} {ss ts : List Scope}
    (h : ∀ s ∈ ss, ∀ {t : Scope}, s.same t = true ↔ R s t) :
    sameAll ss ts = true ↔ List.Forall₂ R ss ts := by
  induction ss generalizing ts with
  | nil => cases ts <;> simp [sameAll]
  | cons s ss ih =>
    obtain ⟨hs, hss⟩ := List.forall_mem_cons.mp h
    cases ts with
    | nil => simp [sameAll]
    | cons t ts => rw [sameAll, Bool.and_eq_true, hs, ih hss, List.forall₂_cons]

/-- For a scope of one dialect, to be the same is to be one tree with the same criteria. -/
theorem same_iff_corresponds (hs : s.Everywhere fun t => t.dialect = d) :
    s.same t = true ↔ Corresponds d d Criterion.Same s t := by
  induction s using inductionOnChildren generalizing t with
  | node s ih =>
    have hchildren : ∀ {ts}, sameAll s.children ts = true ↔
        List.Forall₂ (Corresponds d d Criterion.Same) s.children ts :=
      sameAll_iff fun child hchild => ih child hchild (hs.of_mem_children child hchild)
    constructor
    · intro h
      obtain rfl := hs.here
      cases s <;> cases t
      case all.all | nothing.nothing | unscoped.unscoped =>
        obtain rfl := eq_of_beq h
        constructor
      case criteria.criteria =>
        simp only [same, Bool.and_eq_true, beq_iff_eq, Criteria.same_iff] at h
        obtain ⟨rfl, hcriteria, rfl⟩ := h
        exact .criteria hcriteria
      case conjunction.conjunction | disjunction.disjunction | negation.negation =>
        obtain ⟨hdialect, hitems⟩ := (Bool.and_eq_true _ _).mp h
        obtain rfl := eq_of_beq hdialect
        constructor
        exact hchildren.mp hitems
      all_goals cases h
    · intro h
      cases h with
      | all | nothing | unscoped => exact beq_self_eq_true d
      | criteria h => simp [same, Criteria.same_iff.mpr h]
      | conjunction h | disjunction h | negation h =>
        exact (Bool.and_eq_true _ _).mpr ⟨beq_self_eq_true d, hchildren.mpr h⟩

/-- No not-a-number occurs in the literals of a scope. -/
def NaNFree (s : Scope) : Prop := s.Everywhere fun t => ∀ c ∈ t.ownCriteria, c.literal.NaNFree

theorem flatMap_eq_of_forall₂ {α β γ : Type u} {f : α → List γ} {g : β → List γ} {as : List α}
    {bs : List β} (h : List.Forall₂ (fun a b => f a = g b) as bs) :
    as.flatMap f = bs.flatMap g := by
  induction h with
  | nil => rfl
  | cons hab _ ih => rw [List.flatMap_cons, List.flatMap_cons, hab, ih]

namespace Corresponds

/-- What holds of corresponding children relates them one by one. -/
theorem forall₂_children {R : Scope → Scope → Prop} (h : Corresponds d e Q s t)
    (ih : ∀ child ∈ s.children, ∀ {t : Scope}, Corresponds d e Q child t → R child t) :
    List.Forall₂ R s.children t.children := by
  have hboth := (List.forall₂_and_left _ _).mpr ⟨fun child => ih child, h.children⟩
  exact hboth.imp fun _ _ hst => hst.1 hst.2

theorem self (hs : s.Everywhere fun t => t.dialect = d) (hfree : s.NaNFree) :
    Corresponds d d Criterion.Same s s := by
  induction s using inductionOnChildren with
  | node s ih =>
    obtain rfl := hs.here
    have hchildren : List.Forall₂ (Corresponds s.dialect s.dialect Criterion.Same)
        s.children s.children := List.forall₂_same.mpr fun child hchild =>
      ih child hchild (hs.of_mem_children child hchild) (hfree.of_mem_children child hchild)
    cases s with
    | all => exact .all
    | nothing => exact .nothing
    | unscoped => exact .unscoped
    | criteria d cs inverted =>
      refine .criteria (List.forall₂_same.mpr fun c hc => ⟨rfl, rfl, ?_⟩)
      exact Literal.same_self_iff.mpr (hfree.here c hc)
    | conjunction => exact .conjunction hchildren
    | disjunction => exact .disjunction hchildren
    | negation => exact .negation hchildren

/-- Scopes with the same criteria accept the same records. -/
theorem accepts_eq {ρ : Type u} [Record ρ] (h : Corresponds d e Criterion.Same s t) (r : ρ) :
    s.accepts r = t.accepts r := by
  induction s using inductionOnChildren generalizing t with
  | node s ih =>
    have hchildren := h.forall₂_children (R := fun s t => t.accepts r = s.accepts r)
      fun child hchild _ hcorresponds => (ih child hchild hcorresponds).symm
    cases h with
    | all | nothing | unscoped => rfl
    | criteria h => rw [accepts_criteria, accepts_criteria, Criteria.allAccept_eq r h,
        Criteria.anyNegated_eq r h]
    | conjunction =>
      rw [accepts_conjunction, accepts_conjunction]
      exact (Dialect.all_accepts_of_forall₂ hchildren).symm
    | disjunction =>
      rw [accepts_disjunction, accepts_disjunction]
      exact (Dialect.any_accepts_of_forall₂ hchildren).symm
    | negation =>
      rw [accepts_negation, accepts_negation]
      exact congrArg Bool.not (Dialect.all_accepts_of_forall₂ hchildren).symm

theorem operators_eq (h : Corresponds d e Criterion.Same s t) : s.operators = t.operators := by
  induction s using inductionOnChildren generalizing t with
  | node s ih =>
    rw [Scope.operators_eq, Scope.operators_eq, Criteria.map_operator_eq h.ownCriteria,
      flatMap_eq_of_forall₂ (h.forall₂_children ih)]

/-- The same trees in another dialect correspond as before. -/
theorem both_inDialect (h : Corresponds d d Q s t) (e : Dialect) :
    Corresponds e e Q (s.inDialect e) (t.inDialect e) := by
  induction s using inductionOnChildren generalizing t with
  | node s ih =>
    have hchildren : List.Forall₂ (Corresponds e e Q) (s.children.map (Scope.inDialect e))
        (t.children.map (Scope.inDialect e)) := by
      rw [List.forall₂_map_left_iff, List.forall₂_map_right_iff]
      exact h.forall₂_children ih
    cases h with
    | all => exact .all
    | nothing => exact .nothing
    | unscoped => exact .unscoped
    | criteria h => exact .criteria h
    | conjunction =>
      rw [Scope.inDialect, Scope.inDialect, allInDialect_eq, allInDialect_eq]
      exact .conjunction hchildren
    | disjunction =>
      rw [Scope.inDialect, Scope.inDialect, allInDialect_eq, allInDialect_eq]
      exact .disjunction hchildren
    | negation =>
      rw [Scope.inDialect, Scope.inDialect, allInDialect_eq, allInDialect_eq]
      exact .negation hchildren

end Corresponds

/-- Two well-formed scopes of a dialect differ at most in literals that are the same. -/
structure Twins (d : Dialect) (s t : Scope) : Prop where
  corresponds : Corresponds d d Criterion.Same s t
  left : s.WellFormed d
  right : t.WellFormed d

end Scope

namespace Dialect

open Scope

variable {d e e' : Dialect} {s t o p : Scope}

/-- Steps that need the same operators fail alike. -/
theorem sameOutcome_of_ifSupported {R : Scope → Scope → Prop} {x y : Except Failure Scope}
    {ops : List Operator} (hx : x = d.ifSupported ops s) (hy : y = d.ifSupported ops t)
    (h : ∀ s t, x = .ok s → y = .ok t → R s t) : SameOutcome R x y := by
  subst hx hy
  rw [ifSupported, ifSupported] at h ⊢
  split at h
  · rfl
  · exact h s t rfl rfl

/-- Twins translate to twins, or fail alike. -/
theorem translate_sameOutcome (h : Twins e s t) :
    SameOutcome (Twins d) (d.translate s) (d.translate t) := by
  have hs := translate_eq_ifSupported (d := d) h.left
  have ht := translate_eq_ifSupported (d := d) h.right
  rw [← h.corresponds.operators_eq] at ht
  refine sameOutcome_of_ifSupported hs ht fun x y hx hy => ⟨?_, ?_, ?_⟩
  · obtain ⟨-, rfl⟩ := ifSupported_eq_ok.mp (hs.symm.trans hx)
    obtain ⟨-, rfl⟩ := ifSupported_eq_ok.mp (ht.symm.trans hy)
    exact h.corresponds.both_inDialect d
  · exact wellFormed_of_translate hx h.left
  · exact wellFormed_of_translate hy h.right

theorem meet_sameOutcome (hs : Twins d s t) (ho : Twins d o p) :
    SameOutcome (Twins d) (d.meet s o) (d.meet t p) :=
  .of_yields ((keeps_wellFormed d).meet hs.left ho.left)
    ((keeps_wellFormed d).meet hs.right ho.right) fun x y hx hy hxwell hywell =>
      ⟨meet_together hs.corresponds ho.corresponds x y hx hy, hxwell, hywell⟩

theorem union_sameOutcome (hs : Twins d s t) (ho : Twins d o p) :
    SameOutcome (Twins d) (d.union s o) (d.union t p) :=
  .of_yields ((keeps_wellFormed d).union hs.left ho.left)
    ((keeps_wellFormed d).union hs.right ho.right) fun x y hx hy hxwell hywell =>
      ⟨union_together hs.corresponds ho.corresponds x y hx hy, hxwell, hywell⟩

theorem complement_sameOutcome (h : Twins d s t) (hne : s.isEmpty = false) :
    SameOutcome (Twins d) (d.complement s) (d.complement t) := by
  have hne' : t.isEmpty = false := h.corresponds.isEmpty_eq.trans hne
  have hinverted : List.Forall₂ Criterion.Same s.ownCriteria.invert t.ownCriteria.invert := by
    rw [Criteria.invert, Criteria.invert, List.forall₂_map_left_iff, List.forall₂_map_right_iff]
    exact h.corresponds.ownCriteria.imp fun _ _ => Criterion.Same.invert
  have hs := complement_eq_ifSupported h.left hne
  have ht := complement_eq_ifSupported h.right hne'
  rw [← Criteria.map_operator_eq hinverted] at ht
  refine sameOutcome_of_ifSupported hs ht fun x y hx hy => ⟨?_, ?_, ?_⟩
  · exact complement_together (fun _ _ hc => Criterion.Same.invert hc) h.corresponds x y hx hy
  · exact wellFormed_of_complement hx h.left hne
  · exact wellFormed_of_complement hy h.right hne'

theorem and_sameOutcome (hs : Twins e s t) (ho : Twins e' o p) :
    SameOutcome (Twins d) (d.and s o) (d.and t p) :=
  (translate_sameOutcome hs).bind fun _ _ hs =>
    (translate_sameOutcome ho).bind fun _ _ ho => meet_sameOutcome hs ho

theorem or_sameOutcome (hs : Twins e s t) (ho : Twins e' o p) :
    SameOutcome (Twins d) (d.or s o) (d.or t p) :=
  (translate_sameOutcome hs).bind fun _ _ hs =>
    (translate_sameOutcome ho).bind fun _ _ ho => union_sameOutcome hs ho

theorem not_sameOutcome (hs : Twins e s t) (ho : Twins e' o p) :
    SameOutcome (Twins d) (d.not s o) (d.not t p) := by
  refine (translate_sameOutcome hs).bind fun s t hs => ?_
  refine (translate_sameOutcome ho).bind fun o p ho => ?_
  rw [ho.corresponds.isEmpty_eq]
  split
  · exact hs
  · rename_i hempty
    exact (complement_sameOutcome ho (Bool.eq_false_iff.mpr hempty)).bind fun _ _ hc =>
      and_sameOutcome hs hc

end Dialect

namespace Scope

open Dialect

variable {a b c s t : Scope} {d : Dialect}

theorem Twins.same (h : Twins d s t) : s.same t = true :=
  (same_iff_corresponds (everywhere_dialect_of_wellFormed h.left)).mpr h.corresponds

/-- Scopes that are the same are twins if they were made. -/
theorem twins_of_same (ha : a.Made) (hb : b.Made) (h : a.same b = true) : Twins a.dialect a b := by
  have hcorresponds :=
    (same_iff_corresponds (everywhere_dialect_of_wellFormed ha.wellFormed)).mp h
  exact ⟨hcorresponds, ha.wellFormed, hcorresponds.dialect_right ▸ hb.wellFormed⟩

theorem twins_self (hc : c.Made) (hfree : c.NaNFree) : Twins c.dialect c c :=
  ⟨.self (everywhere_dialect_of_wellFormed hc.wellFormed) hfree, hc.wellFormed, hc.wellFormed⟩

/-- Two scopes that builders made and that are the same belong to one dialect, carry a condition or
none alike and accept the same records. Composed with any scope without a not-a-number, in any
dialect and on either side, they fail alike or give scopes that are the same again. Literals are the
same by kind and content, and the two zeros are the same although they have different words. -/
theorem same_is_congruence :
    (∀ a b : Scope, a.Made → b.Made → a.same b = true →
        (a.dialect = b.dialect ∧ a.isEmpty = b.isEmpty ∧
          ∀ {ρ : Type u} [Record ρ] (r : ρ), a.accepts r = b.accepts r) ∧
        ∀ (d : Dialect) (c : Scope), c.Made → c.NaNFree →
          (SameOutcome (·.same · = true) (d.and a c) (d.and b c) ∧
            SameOutcome (·.same · = true) (d.or a c) (d.or b c) ∧
            SameOutcome (·.same · = true) (d.not a c) (d.not b c)) ∧
          SameOutcome (·.same · = true) (d.and c a) (d.and c b) ∧
            SameOutcome (·.same · = true) (d.or c a) (d.or c b) ∧
            SameOutcome (·.same · = true) (d.not c a) (d.not c b)) ∧
      (∀ v w : Literal, v.same w = true ↔ v.Same w) ∧
      ∃ x y : Binary64, (Literal.number (.float x)).same (.number (.float y)) = true ∧
        x.toBits ≠ y.toBits := by
  refine ⟨fun a b ha hb h => ?_, fun v w => Literal.same_iff, .ofInt 0, (Binary64.ofInt 0).neg, ?_⟩
  · have hab := twins_of_same ha hb h
    refine ⟨⟨hab.corresponds.dialect_right.symm, hab.corresponds.isEmpty_eq.symm,
      fun r => hab.corresponds.accepts_eq r⟩, fun d c hc hfree => ?_⟩
    have hcc := twins_self hc hfree
    have hsame : ∀ s t : Scope, Twins d s t → s.same t = true := fun s t => Twins.same
    exact ⟨⟨(and_sameOutcome hab hcc).imp hsame, (or_sameOutcome hab hcc).imp hsame,
        (not_sameOutcome hab hcc).imp hsame⟩,
      (and_sameOutcome hcc hab).imp hsame, (or_sameOutcome hcc hab).imp hsame,
      (not_sameOutcome hcc hab).imp hsame⟩
  · decide +kernel

/-- A test of membership with either zero among the candidates, taken from a disjunction. A dialect
without that operator takes over neither. -/
theorem same_is_congruence_zeros :
    let zero : Binary64 := .ofInt 0
    let test (x : Binary64) : Criterion := ⟨"x", .oneOf, .list [.number (.float x), .null]⟩
    let a : Scope := .criteria basic [test zero] true
    let b : Scope := .criteria basic [test zero.neg] true
    let map : Criterion := ⟨"y", .equal, .string "map"⟩
    let c : Scope := .disjunction basic [.criteria basic [map] false]
    let sql : Dialect := ⟨"sql", [.equal]⟩
    ((a.Made ∧ b.Made ∧ a.same b = true) ∧ c.Made ∧ c.NaNFree) ∧
      (∃ s t, basic.not c a = .ok s ∧ basic.not c b = .ok t ∧ s.same t = true) ∧
      sql.and c a = .error (.unsupportedOperator "sql" .oneOf) ∧
      sql.and c b = .error (.unsupportedOperator "sql" .oneOf) := by
  intro zero test a b map c sql
  have htest (x : Binary64) : (test x).WellFormed := ⟨by simp [test], fun _ => rfl, nofun⟩
  have hmap : map.WellFormed := ⟨by decide, nofun, nofun⟩
  have ha : a.WellFormed basic :=
    wellFormed_of_criteriaScope rfl (List.forall_mem_singleton.mpr (htest zero))
  have hb : b.WellFormed basic :=
    wellFormed_of_criteriaScope rfl (List.forall_mem_singleton.mpr (htest zero.neg))
  have hleaf : (Scope.criteria basic [map] false).WellFormed basic :=
    wellFormed_of_criteriaScope rfl (List.forall_mem_singleton.mpr hmap)
  have hc : c.WellFormed basic :=
    .node ((keeps_wellFormed basic).disjunction (List.cons_ne_nil _ _))
      (List.forall_mem_singleton.mpr hleaf)
  have hfree : c.NaNFree := by
    have hliteral : (Scope.criteria basic [map] false).NaNFree :=
      .leaf (List.forall_mem_singleton.mpr (.string "map")) rfl
    exact .node nofun (List.forall_mem_singleton.mpr hliteral)
  have hsame : a.same b = true := by decide +kernel
  obtain ⟨hlaw, -⟩ := same_is_congruence.{0}
  obtain ⟨-, hcomposed⟩ := hlaw a b ha.madeBy.made hb.madeBy.made hsame
  obtain ⟨-, -, -, hnot⟩ := hcomposed basic c hc.madeBy.made hfree
  exact ⟨⟨⟨ha.madeBy.made, hb.madeBy.made, hsame⟩, hc.madeBy.made, hfree⟩,
    ⟨_, _, rfl, rfl, hnot⟩, rfl, rfl⟩

end Scope
end QueryScope
