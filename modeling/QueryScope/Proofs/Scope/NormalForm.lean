import QueryScope.Proofs.Scope.Kind
import QueryScope.Proofs.Scope.Reachable

/-!
# Normal forms

Scopes put together by composition alone stay in normal form: criteria are not empty, joined nodes
have at least two children and none of their own kind, and scopes of every record, of no record or
without a condition stand at the root only. What carries the proof is a condition on negations,
since the complement of a negation makes its children the children of a conjunction.
-/
namespace QueryScope

namespace Scope

def isDegenerate : Scope → Bool
  | .all _ | .nothing _ | .unscoped _ => true
  | _ => false

/-- There are several scopes, and none is of a kind. -/
def Several (kind : Kind) (ss : List Scope) : Prop :=
  2 ≤ ss.length ∧ ∀ s ∈ ss, s.kind ≠ kind

/-- What a node in normal form is like: it has criteria, or joins several scopes that are not of its
own kind. A negation has a single disjunction or several scopes that are no conjunctions. -/
def ProperNode : Scope → Prop
  | .criteria _ cs _ => cs ≠ []
  | .conjunction _ children => Several .conjunction children
  | .disjunction _ children => Several .disjunction children
  | .negation _ children =>
    (∃ only, children = [only] ∧ only.kind = .disjunction) ∨ Several .conjunction children
  | _ => False

/-- Every node is in normal form. -/
abbrev Proper (s : Scope) : Prop := s.Everywhere ProperNode

/-- A scope is proper, or it is a single node that says nothing about criteria. -/
inductive Normal : Scope → Prop
  | all {d} : Normal (.all d)
  | nothing {d} : Normal (.nothing d)
  | unscoped {d} : Normal (.unscoped d)
  | noCriteria {d} : Normal (.criteria d [] false)
  | proper {s} (h : s.Proper) : Normal s

/-- No child is degenerate or without a condition, and none repeats the kind of a joined node. -/
def FlatNode (s : Scope) : Prop :=
  ∀ t ∈ s.children, t.isDegenerate = false ∧ t.isEmpty = false ∧
    (s.kind = .conjunction → t.kind ≠ .conjunction) ∧
    (s.kind = .disjunction → t.kind ≠ .disjunction)

variable {d : Dialect} {s t : Scope} {ss ts : List Scope} {kind : Kind}

theorem kind_ne_conjunction (h : ∀ d ss, s ≠ .conjunction d ss) : s.kind ≠ .conjunction := by
  intro hs
  cases s with
  | conjunction d ss => exact h d ss rfl
  | criteria _ _ inverted => cases inverted <;> cases hs
  | _ => cases hs

theorem kind_ne_disjunction (h : ∀ d ss, s ≠ .disjunction d ss) : s.kind ≠ .disjunction := by
  intro hs
  cases s with
  | disjunction d ss => exact h d ss rfl
  | criteria _ _ inverted => cases inverted <;> cases hs
  | _ => cases hs

theorem isDegenerate_eq_false (hne : s.isEmpty = false) (hall : ∀ d, s ≠ .all d)
    (hnothing : ∀ d, s ≠ .nothing d) : s.isDegenerate = false := by
  cases s with
  | all d => exact absurd rfl (hall d)
  | nothing d => exact absurd rfl (hnothing d)
  | unscoped => cases hne
  | _ => rfl

namespace Several

theorem append (hss : Several kind ss) (hts : ∀ t ∈ ts, t.kind ≠ kind) :
    Several kind (ss ++ ts) := by
  refine ⟨?_, List.forall_mem_append.mpr ⟨hss.2, hts⟩⟩
  have hmany := hss.1
  rw [List.length_append]
  omega

theorem cons (hs : s.kind ≠ kind) (hss : Several kind ss) : Several kind (s :: ss) := by
  refine ⟨?_, List.forall_mem_cons.mpr ⟨hs, hss.2⟩⟩
  have hmany := hss.1
  rw [List.length_cons]
  omega

theorem pair (hs : s.kind ≠ kind) (ht : t.kind ≠ kind) : Several kind [s, t] :=
  ⟨Nat.le_refl 2, List.forall_mem_cons.mpr ⟨hs, List.forall_mem_singleton.mpr ht⟩⟩

theorem ne_nil (h : Several kind ss) : ss ≠ [] := by
  rintro rfl
  exact absurd h.1 (by decide)

end Several

namespace Proper

/-- A proper scope carries a condition of its own. -/
theorem solid (h : s.Proper) : s.isDegenerate = false ∧ s.isEmpty = false := by
  have hnode : s.ProperNode := h.here
  cases s with
  | all | nothing | unscoped => exact hnode.elim
  | criteria d cs inverted => exact ⟨rfl, List.isEmpty_eq_false_iff.mpr hnode⟩
  | conjunction d ss | disjunction d ss =>
    exact ⟨rfl, List.isEmpty_eq_false_iff.mpr (Several.ne_nil hnode)⟩
  | negation => exact ⟨rfl, rfl⟩

theorem flat (h : s.Proper) : s.Everywhere FlatNode := by
  induction h with
  | @node s here below ih =>
    refine .node (fun t ht => ?_) ih
    have hsolid := solid (below t ht)
    refine ⟨hsolid.1, hsolid.2, fun hs => ?_, fun hs => ?_⟩
    · cases s with
      | conjunction d ss => exact here.2 t ht
      | criteria => cases ht
      | _ => cases hs
    · cases s with
      | disjunction d ss => exact here.2 t ht
      | criteria => cases ht
      | _ => cases hs

end Proper

namespace Normal

theorem flat (h : s.Normal) : s.Everywhere FlatNode := by
  cases h with
  | proper h => exact h.flat
  | all | nothing | unscoped | noCriteria => exact .leaf nofun rfl

/-- Of the scopes in normal form, those that carry a condition and are not degenerate are proper. -/
theorem toProper (h : s.Normal) (hne : s.isEmpty = false) (hsolid : s.isDegenerate = false) :
    s.Proper := by
  cases h with
  | proper h => exact h
  | all | nothing | unscoped => cases hsolid
  | noCriteria => cases hne

end Normal

end Scope

namespace Dialect

open Scope

variable {d : Dialect} {s o t a b : Scope} {ss ts : List Scope} {kind : Kind}

/-- A scope and its copy in another dialect are of one kind, and the copy is as proper. -/
structure KeepsForm (s t : Scope) : Prop where
  kind_eq : t.kind = s.kind
  proper : s.Proper → t.Proper

namespace KeepsForm

theorem several (h : List.Forall₂ KeepsForm ss ts) (hss : Several kind ss) :
    Several kind ts := by
  refine ⟨h.length_eq ▸ hss.1, fun t ht => ?_⟩
  obtain ⟨s, hs, hst⟩ := exists_mem_of_forall₂ h t ht
  rw [hst.kind_eq]
  exact hss.2 s hs

theorem children (h : List.Forall₂ KeepsForm ss ts) (hss : ∀ s ∈ ss, s.Proper) :
    ∀ t ∈ ts, t.Proper := by
  intro t ht
  obtain ⟨s, hs, hst⟩ := exists_mem_of_forall₂ h t ht
  exact hst.proper (hss s hs)

variable {e e' : Dialect} (h : List.Forall₂ KeepsForm ss ts)
include h

theorem ofConjunction : KeepsForm (.conjunction e ss) (.conjunction e' ts) := by
  refine ⟨rfl, fun hs => ?_⟩
  exact .node (several h hs.here) (children h hs.of_mem_children)

theorem ofDisjunction : KeepsForm (.disjunction e ss) (.disjunction e' ts) := by
  refine ⟨rfl, fun hs => ?_⟩
  exact .node (several h hs.here) (children h hs.of_mem_children)

theorem ofNegation : KeepsForm (.negation e ss) (.negation e' ts) := by
  refine ⟨rfl, fun hs => .node ?_ (children h hs.of_mem_children)⟩
  have hnode : (Scope.negation e ss).ProperNode := hs.here
  rcases hnode with ⟨only, rfl, hor⟩ | hmany
  · obtain ⟨t, rest, ht, hrest, rfl⟩ := List.forall₂_cons_left_iff.mp h
    obtain rfl := List.forall₂_nil_left_iff.mp hrest
    exact .inl ⟨t, rfl, ht.kind_eq.trans hor⟩
  · exact .inr (several h hmany)

end KeepsForm

theorem keepsForm_of_translate (h : d.translate s = .ok t) : KeepsForm s t := by
  apply rel_of_translate_eq_ok (R := KeepsForm) (h := h)
  case same => exact fun s _ => ⟨rfl, fun hs => hs⟩
  case all | nothing | unscoped => exact fun e => ⟨rfl, fun hs => hs.here.elim⟩
  case criteria =>
    exact fun e cs inverted _ => ⟨by cases inverted <;> rfl, fun hs => .leaf hs.here rfl⟩
  case conjunction => exact fun e ss ts hts => .ofConjunction hts
  case disjunction => exact fun e ss ts hts => .ofDisjunction hts
  case negation => exact fun e ss ts _ hts => .ofNegation hts

theorem keepsForm_of_translateAll (h : d.translateAll ss = .ok ts) :
    List.Forall₂ KeepsForm ss ts :=
  (translateAll_eq_ok.mp h).imp fun _ _ => keepsForm_of_translate

/-- Translation keeps the normal form. -/
theorem normal_of_translate (h : d.translate s = .ok t) (hs : s.Normal) : t.Normal := by
  by_cases hd : s.dialect = d
  · rw [translate_of_dialect_eq hd] at h
    cases h
    exact hs
  cases hs with
  | proper hs => exact .proper ((keepsForm_of_translate h).proper hs)
  | all | nothing | unscoped | noCriteria =>
    rw [translate_of_dialect_ne hd] at h
    cases h
    constructor

theorem proper_of_criteriaScope {cs : Criteria} {inverted : Bool}
    (h : d.criteriaScope cs inverted = .ok t) (hcs : cs ≠ []) : t.Proper := by
  obtain ⟨-, rfl⟩ := criteriaScope_eq_ok.mp h
  exact .leaf hcs rfl

theorem proper_of_conjunctionScope (h : d.conjunctionScope ss = .ok t)
    (hmany : Several .conjunction ss) (hss : ∀ s ∈ ss, s.Proper) : t.Proper := by
  obtain ⟨ts, hts, rfl⟩ := conjunctionScope_eq_ok.mp h
  exact (KeepsForm.ofConjunction (e := d) (keepsForm_of_translateAll hts)).proper (.node hmany hss)

theorem proper_of_disjunctionScope (h : d.disjunctionScope ss = .ok t)
    (hmany : Several .disjunction ss) (hss : ∀ s ∈ ss, s.Proper) : t.Proper := by
  obtain ⟨ts, hts, rfl⟩ := disjunctionScope_eq_ok.mp h
  exact (KeepsForm.ofDisjunction (e := d) (keepsForm_of_translateAll hts)).proper (.node hmany hss)

theorem proper_of_negationScope (h : d.negationScope ss = .ok t)
    (hnode : (Scope.negation d ss).ProperNode) (hss : ∀ s ∈ ss, s.Proper) : t.Proper := by
  obtain ⟨-, ts, hts, rfl⟩ := negationScope_eq_ok.mp h
  exact (KeepsForm.ofNegation (e := d) (keepsForm_of_translateAll hts)).proper (.node hnode hss)

/-- Criteria that join the last child leave as many children, others make one more. -/
theorem several_of_appendCriteria {e : Dialect} {cs : Criteria}
    (h : d.appendCriteria ss cs (.criteria e cs false) = .ok ts) (hmany : Several .conjunction ss) :
    Several .conjunction ts := by
  have hplain : ∀ {e' cs'}, (Scope.criteria e' cs' false).kind ≠ .conjunction := by
    intro e' cs' hkind
    cases hkind
  revert h
  fun_cases d.appendCriteria ss cs (.criteria e cs false) with
  | case1 e' last hlast =>
    intro h
    obtain ⟨merged, hmerged, hts⟩ := bind_eq_ok.mp h
    obtain ⟨-, rfl⟩ := criteriaScope_eq_ok.mp hmerged
    cases hts
    have hlength : 2 ≤ ss.length := hmany.1
    constructor
    · simp
      omega
    · refine List.forall_mem_append.mpr ⟨fun s hs => ?_, List.forall_mem_singleton.mpr hplain⟩
      exact hmany.2 s (List.dropLast_subset _ hs)
  | case2 =>
    intro h
    cases h
    exact hmany.append (List.forall_mem_singleton.mpr hplain)

theorem proper_of_appendCriteria {e : Dialect} {cs : Criteria}
    (h : d.appendCriteria ss cs (.criteria e cs false) = .ok ts) (hcs : cs ≠ [])
    (hss : ∀ s ∈ ss, s.Proper) : ∀ t ∈ ts, t.Proper := by
  revert h
  fun_cases d.appendCriteria ss cs (.criteria e cs false) with
  | case1 e' last hlast =>
    intro h
    obtain ⟨merged, hmerged, hts⟩ := bind_eq_ok.mp h
    cases hts
    have hproper : merged.Proper :=
      proper_of_criteriaScope hmerged (List.append_ne_nil_of_right_ne_nil _ hcs)
    refine List.forall_mem_append.mpr ⟨fun s hs => ?_, List.forall_mem_singleton.mpr hproper⟩
    exact hss s (List.dropLast_subset _ hs)
  | case2 =>
    intro h
    cases h
    exact List.forall_mem_append.mpr ⟨hss, List.forall_mem_singleton.mpr (.leaf hcs rfl)⟩

/-- Joining proper scopes gives a proper conjunction or proper criteria. -/
theorem proper_of_joinAnd (h : d.joinAnd s o = .ok t) (hs : s.Proper) (ho : o.Proper) :
    t.Proper := by
  revert h
  fun_cases d.joinAnd s o with
  | case1 e left e' right =>
    intro h
    exact proper_of_criteriaScope h (List.append_ne_nil_of_right_ne_nil _ ho.here)
  | case2 e left e' right =>
    intro h
    have hleft : Several .conjunction left := hs.here
    have hright : Several .conjunction right := ho.here
    exact proper_of_conjunctionScope h (hleft.append hright.2)
      (List.forall_mem_append.mpr ⟨hs.of_mem_children, ho.of_mem_children⟩)
  | case3 e children e' cs =>
    intro h
    obtain ⟨ts, hts, h⟩ := bind_eq_ok.mp h
    exact proper_of_conjunctionScope h (several_of_appendCriteria hts hs.here)
      (proper_of_appendCriteria hts ho.here hs.of_mem_children)
  | case4 o e children hflat =>
    intro h
    have hmany : Several .conjunction children := hs.here
    have hother : o.kind ≠ .conjunction := kind_ne_conjunction hflat
    exact proper_of_conjunctionScope h (hmany.append (List.forall_mem_singleton.mpr hother))
      (List.forall_mem_append.mpr ⟨hs.of_mem_children, List.forall_mem_singleton.mpr ho⟩)
  | case5 s e children hflat =>
    intro h
    exact proper_of_conjunctionScope h (.cons (kind_ne_conjunction hflat) ho.here)
      (List.forall_mem_cons.mpr ⟨hs, ho.of_mem_children⟩)
  | case6 s o hflat hother =>
    intro h
    exact proper_of_conjunctionScope h
      (.pair (kind_ne_conjunction hflat) (kind_ne_conjunction hother))
      (List.forall_mem_cons.mpr ⟨hs, List.forall_mem_singleton.mpr ho⟩)

theorem proper_of_joinOr (h : d.joinOr s o = .ok t) (hs : s.Proper) (ho : o.Proper) :
    t.Proper := by
  revert h
  fun_cases d.joinOr s o with
  | case1 e left e' right =>
    intro h
    have hleft : Several .disjunction left := hs.here
    have hright : Several .disjunction right := ho.here
    exact proper_of_disjunctionScope h (hleft.append hright.2)
      (List.forall_mem_append.mpr ⟨hs.of_mem_children, ho.of_mem_children⟩)
  | case2 o e children hflat =>
    intro h
    have hmany : Several .disjunction children := hs.here
    have hother : o.kind ≠ .disjunction := kind_ne_disjunction hflat
    exact proper_of_disjunctionScope h (hmany.append (List.forall_mem_singleton.mpr hother))
      (List.forall_mem_append.mpr ⟨hs.of_mem_children, List.forall_mem_singleton.mpr ho⟩)
  | case3 s e children hflat =>
    intro h
    exact proper_of_disjunctionScope h (.cons (kind_ne_disjunction hflat) ho.here)
      (List.forall_mem_cons.mpr ⟨hs, ho.of_mem_children⟩)
  | case4 s o hflat hother =>
    intro h
    exact proper_of_disjunctionScope h
      (.pair (kind_ne_disjunction hflat) (kind_ne_disjunction hother))
      (List.forall_mem_cons.mpr ⟨hs, List.forall_mem_singleton.mpr ho⟩)

theorem normal_of_meet (h : d.meet s o = .ok t) (hs : s.Normal) (ho : o.Normal) : t.Normal := by
  revert h
  fun_cases d.meet s o with
  | case1 | case5 =>
    intro h
    cases h
    exact hs
  | case2 | case3 =>
    intro h
    cases h
    exact .nothing
  | case4 =>
    intro h
    cases h
    exact ho
  | case6 s o _ hempty =>
    intro h
    rw [if_pos hempty] at h
    cases h
    exact ho
  | case7 s o hother hempty hnothing hall hnothing' hall' =>
    intro h
    rw [if_neg hempty] at h
    have hsne : s.isEmpty = false := Bool.eq_false_iff.mpr hempty
    have hone : o.isEmpty = false := Bool.eq_false_iff.mpr hother
    have hs : s.Proper := hs.toProper hsne (isDegenerate_eq_false hsne hall hnothing)
    have ho : o.Proper := ho.toProper hone (isDegenerate_eq_false hone hall' hnothing')
    exact .proper (proper_of_joinAnd h hs ho)

theorem normal_of_union (h : d.union s o = .ok t) (hs : s.Normal) (ho : o.Normal) : t.Normal := by
  revert h
  fun_cases d.union s o with
  | case1 | case5 =>
    intro h
    cases h
    exact hs
  | case2 | case3 =>
    intro h
    cases h
    exact .all
  | case4 =>
    intro h
    cases h
    exact ho
  | case6 s o _ hempty =>
    intro h
    rw [if_pos hempty] at h
    cases h
    exact ho
  | case7 s o hother hempty hall hnothing hall' hnothing' =>
    intro h
    rw [if_neg hempty] at h
    have hsne : s.isEmpty = false := Bool.eq_false_iff.mpr hempty
    have hone : o.isEmpty = false := Bool.eq_false_iff.mpr hother
    have hs : s.Proper := hs.toProper hsne (isDegenerate_eq_false hsne hall hnothing)
    have ho : o.Proper := ho.toProper hone (isDegenerate_eq_false hone hall' hnothing')
    exact .proper (proper_of_joinOr h hs ho)

/-- The complement of a scope in normal form is in normal form. -/
theorem normal_of_complement (h : d.complement s = .ok t) (hs : s.Normal) : t.Normal := by
  revert h
  fun_cases d.complement s with
  | case1 | case4 =>
    intro h
    cases h
    exact .unscoped
  | case2 =>
    intro h
    cases h
    exact .nothing
  | case3 =>
    intro h
    cases h
    exact .all
  | case5 e cs inverted hne =>
    intro h
    have hinvert : cs.invert ≠ [] := by simpa [isEmpty, Criteria.invert] using hne
    exact .proper (proper_of_criteriaScope h hinvert)
  | case6 e only hne =>
    intro h
    cases h
    have hproper : (Scope.negation e [t]).Proper := hs.toProper rfl rfl
    exact .proper (hproper.of_mem_children t List.mem_cons_self)
  | case7 e children hmany =>
    -- what a negation asks of several children is what a conjunction asks of them
    intro h
    have hproper : (Scope.negation e children).Proper := hs.toProper rfl rfl
    have hnode : (Scope.negation e children).ProperNode := hproper.here
    rcases hnode with ⟨only, honly, -⟩ | hseveral
    · exact absurd honly (hmany only)
    · exact .proper (proper_of_conjunctionScope h hseveral hproper.of_mem_children)
  | case8 e children hne =>
    intro h
    have hproper : (Scope.conjunction e children).Proper :=
      hs.toProper (Bool.eq_false_iff.mpr hne) rfl
    exact .proper (proper_of_negationScope h (.inr hproper.here) hproper.of_mem_children)
  | case9 e children hne =>
    intro h
    have hproper : (Scope.disjunction e children).Proper :=
      hs.toProper (Bool.eq_false_iff.mpr hne) rfl
    exact .proper (proper_of_negationScope h (.inl ⟨_, rfl, rfl⟩)
      (List.forall_mem_singleton.mpr hproper))

theorem normal_of_and (h : d.and a b = .ok t) (ha : a.Normal) (hb : b.Normal) : t.Normal := by
  obtain ⟨s, hs, o, ho, hmeet⟩ := and_eq_ok.mp h
  exact normal_of_meet hmeet (normal_of_translate hs ha) (normal_of_translate ho hb)

theorem normal_of_or (h : d.or a b = .ok t) (ha : a.Normal) (hb : b.Normal) : t.Normal := by
  obtain ⟨s, hs, o, ho, hunion⟩ := or_eq_ok.mp h
  exact normal_of_union hunion (normal_of_translate hs ha) (normal_of_translate ho hb)

theorem normal_of_not (h : d.not a b = .ok t) (ha : a.Normal) (hb : b.Normal) : t.Normal := by
  obtain ⟨s, hs, o, ho, h⟩ := not_eq_ok.mp h
  have hs : s.Normal := normal_of_translate hs ha
  have ho : o.Normal := normal_of_translate ho hb
  split at h
  · exact h ▸ hs
  · obtain ⟨c, hc, hand⟩ := h
    exact normal_of_and hand hs (normal_of_complement hc ho)

theorem normal_of_filterScope {hash block : Option Filter} (h : d.filterScope hash block = .ok t) :
    t.Normal := by
  obtain ⟨cs, -, h⟩ := bind_eq_ok.mp h
  obtain ⟨-, rfl⟩ := criteriaScope_eq_ok.mp h
  cases cs with
  | nil => exact .noCriteria
  | cons c cs => exact .proper (.leaf (List.cons_ne_nil c cs) rfl)

end Dialect

/-- Whether a call builds a node out of parts that it is given. -/
def Operation.isRaw : Operation → Bool
  | .criteria _ _ | .conjunction _ | .disjunction _ | .negation _ => true
  | _ => false

/-- The scopes that builders of any dialects make without building nodes out of given parts. -/
inductive Scope.Composed : Scope → Prop
  | step {d : Dialect} {op : Operation} {s : Scope} (composes : op.isRaw = false)
      (operands : ∀ t ∈ op.operands, Composed t) (run : op.run d = .ok s) : Composed s

open Dialect

/-- Each call that composes turns scopes in normal form into one. -/
theorem Operation.run_normal {d : Dialect} {op : Operation} {s : Scope} (hop : op.isRaw = false)
    (hoperands : ∀ t ∈ op.operands, t.Normal) (h : op.run d = .ok s) : s.Normal := by
  cases op with
  | criteria | conjunction | disjunction | negation => cases hop
  | all =>
    cases h
    exact .all
  | nothing =>
    cases h
    exact .nothing
  | unscoped =>
    cases h
    exact .unscoped
  | build hash block => exact normal_of_filterScope h
  | translate scope => exact normal_of_translate h (hoperands scope List.mem_cons_self)
  | and scope other =>
    obtain ⟨hscope, hother⟩ := List.forall_mem_cons.mp hoperands
    exact normal_of_and h hscope (hother other List.mem_cons_self)
  | or scope other =>
    obtain ⟨hscope, hother⟩ := List.forall_mem_cons.mp hoperands
    exact normal_of_or h hscope (hother other List.mem_cons_self)
  | not scope other =>
    obtain ⟨hscope, hother⟩ := List.forall_mem_cons.mp hoperands
    exact normal_of_not h hscope (hother other List.mem_cons_self)
  | filter scope hash block =>
    obtain ⟨built, hbuilt, h⟩ := bind_eq_ok.mp h
    exact normal_of_and h (hoperands scope List.mem_cons_self) (normal_of_filterScope hbuilt)

namespace Scope

variable {s : Scope}

/-- By induction over the composition, what is composed is in normal form. -/
theorem Composed.normal (h : s.Composed) : s.Normal := by
  induction h with
  | step hop _ run ih => exact Operation.run_normal hop ih run

/-- A composed scope is in normal form. Below its root nothing is degenerate or without a condition,
and no conjunction or disjunction stands right inside one of its own kind. -/
theorem Composed.normal_and_flat (h : s.Composed) : s.Normal ∧ s.Everywhere FlatNode :=
  ⟨h.normal, h.normal.flat⟩

/-- Criteria joined with the complement of a disjunction, one side of which comes from another
dialect. -/
theorem normal_and_flat_negation :
    let sql : Dialect := ⟨"sql", [.null]⟩
    let x : Scope := .criteria sql [⟨"x", .null, .null⟩] false
    let y : Scope := .criteria basic [⟨"y", .notNull, .null⟩] false
    let u : Scope := .disjunction basic [.criteria basic [⟨"x", .null, .null⟩] false, y]
    let s : Scope := .conjunction basic [y, .negation basic [u]]
    (x.Composed ∧ s.Composed) ∧ s.Normal ∧ s.Everywhere FlatNode := by
  intro sql x y u s
  have hxrun : (Operation.build (some [("x", .expression .null .null)]) none).run sql = .ok x := rfl
  have hyrun : (Operation.build none (some [("y", .call "not_null" .null)])).run basic = .ok y :=
    rfl
  have hurun : (Operation.or x y).run basic = .ok u := rfl
  have hsrun : (Operation.not y u).run basic = .ok s := rfl
  have hx : x.Composed := by
    refine .step rfl ?_ hxrun
    nofun
  have hy : y.Composed := by
    refine .step rfl ?_ hyrun
    nofun
  have hu : u.Composed := by
    refine .step rfl ?_ hurun
    exact List.forall_mem_cons.mpr ⟨hx, List.forall_mem_singleton.mpr hy⟩
  have hs : s.Composed := by
    refine .step rfl ?_ hsrun
    exact List.forall_mem_cons.mpr ⟨hy, List.forall_mem_singleton.mpr hu⟩
  exact ⟨⟨hx, hs⟩, Composed.normal_and_flat hs⟩

end Scope

end QueryScope
